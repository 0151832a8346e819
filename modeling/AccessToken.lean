import AccessToken.Service.HapIndex
import AccessToken.Service.PolicyAtomic
import AccessToken.Service.ConcurrentLoad
import AccessToken.Kernel.Transaction
import AccessToken.Kernel.GrantedBits
import AccessToken.Service.SandboxUpdate
import AccessToken.Claw.Dialog
import AccessToken.Service.AdminFixed
import AccessToken.Service.PolicyTransparent
import AccessToken.Service.Restart
import AccessToken.Service.Subscribers
import AccessToken.Service.RemoteTokens
import AccessToken.Service.UndefinedPerms
import AccessToken.TempPermission.Runs
import AccessToken.ShortGrant
import AccessToken.TempPermission.Forms
import AccessToken.RequestToggle
import AccessToken.Claw.ConcurrentDelete
import AccessToken.BundleIds
import AccessToken.CodeSignature
import AccessToken.Service.Readers
import AccessToken.RemoteCommandExecutor
import AccessToken.UsedRecords
import AccessToken.Kernel.PermBitmap
import AccessToken.Kernel.RestoreEntries
import AccessToken.PermissionRecordSet
