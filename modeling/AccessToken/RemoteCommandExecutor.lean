import Mathlib.Data.List.Nodup
import AccessToken.Lib.Run
/-!
# RemoteCommandExecutor — the buffer of synchronisation commands

`remote_command_executor.cpp`.  Every function works under `mutex_` from its first line to its last, so a call is one
step, the runner that `ProcessBufferedCommandsWithThread` posts among them; for the same reason nothing clears
`running_` under the loop of `ProcessBufferedCommands`, and its interrupt is never taken.
-/
namespace AccessToken

open Lib (Reaches reaches_foldl)

namespace RemoteCommandExecutor

/-- A `BaseRemoteCommand`, of which the buffer reads the id only. -/
structure RemoteCommand where
  uniqueId : String
deriving DecidableEq

/-- What `ProcessOneCommand` returns; `failure` is any code but the other two. -/
inductive Status where
  | success | failureButCanRetry | failure
deriving DecidableEq

/-- An executor with the runners that are posted to it, and two records of its past: the commands that entered the
buffer and those that were processed. -/
structure Executor where
  commands : List RemoteCommand := []
  running : Bool := false
  posted : Nat := 0
  added : List RemoteCommand := []
  processed : List (RemoteCommand × Status) := []
deriving DecidableEq

/-- How posting the runner goes. -/
structure PostEnv where
  serviceOk : Bool
  handlerOk : Bool
  postOk : Bool

def PostEnv.posts (env : PostEnv) : Bool := env.serviceOk && env.handlerOk && env.postOk

def addCommand (s : Executor) (ptrCommand : Option RemoteCommand) : Executor :=
  match ptrCommand with
  | none => s
  | some command =>
    if s.commands.any (·.uniqueId == command.uniqueId) then s
    else { s with commands := s.commands ++ [command], added := s.added ++ [command] }

/-- The loop of `ProcessBufferedCommands`: what is processed and what is left, `status i` being the answer to the `i`-th
command. -/
def processLoop (status : Nat → Status) : List RemoteCommand → List (RemoteCommand × Status) × List RemoteCommand
  | [] => ([], [])
  | command :: rest =>
    match status 0 with
    | .failureButCanRetry => ([(command, .failureButCanRetry)], command :: rest)
    | st =>
      let r := processLoop (fun i => status (i + 1)) rest
      ((command, st) :: r.1, r.2)

def processBufferedCommands (status : Nat → Status) (s : Executor) : Executor :=
  let r := processLoop status s.commands
  { s with commands := r.2, running := false, processed := s.processed ++ r.1 }

def processBufferedCommandsWithThread (env : PostEnv) (s : Executor) : Executor :=
  if s.commands.isEmpty then s
  else if s.running then s
  else { s with running := true, posted := if env.posts then s.posted + 1 else s.posted }

inductive Call where
  | addCommand (ptrCommand : Option RemoteCommand)
  | processBufferedCommandsWithThread (env : PostEnv)
  | processBufferedCommands (status : Nat → Status)
  /-- A posted runner has its turn. -/
  | runner (status : Nat → Status)

def step (s : Executor) : Call → Executor
  | .addCommand ptrCommand => addCommand s ptrCommand
  | .processBufferedCommandsWithThread env => processBufferedCommandsWithThread env s
  | .processBufferedCommands status => processBufferedCommands status s
  | .runner status => if s.posted = 0 then s else { processBufferedCommands status s with posted := s.posted - 1 }

/-- The record of what was processed, played back on a buffer: each command is the front one, and it leaves the buffer
unless it can be retried. -/
def playBack : List RemoteCommand → List (RemoteCommand × Status) → Option (List RemoteCommand)
  | l, [] => some l
  | [], _ :: _ => none
  | front :: l, (command, st) :: past =>
    if command = front then playBack (if st = .failureButCanRetry then front :: l else l) past else none

theorem playBack_append : ∀ (past past' : List (RemoteCommand × Status)) (l : List RemoteCommand),
    playBack l (past ++ past') = (playBack l past).bind (playBack · past')
  | [], _, _ => rfl
  | _ :: _, _, [] => rfl
  | (command, st) :: past, past', front :: l => by
    rw [List.cons_append, playBack, playBack]
    split
    · exact playBack_append past past' _
    · rfl

/-- A command that enters the buffer waits behind all others. -/
theorem playBack_add (new : RemoteCommand) : ∀ {past : List (RemoteCommand × Status)} {l left : List RemoteCommand},
    playBack l past = some left → playBack (l ++ [new]) past = some (left ++ [new])
  | [], _, _, h => by simpa [playBack] using h
  | _ :: _, [], _, h => by cases h
  | (command, st) :: past, front :: l, left, h => by
    have ih := fun l' => @playBack_add new past l' left
    grind [playBack]

theorem playBack_processLoop : ∀ (status : Nat → Status) (l : List RemoteCommand),
    playBack l (processLoop status l).1 = some (processLoop status l).2
  | _, [] => rfl
  | status, command :: rest => by
    have ih := playBack_processLoop (fun i => status (i + 1)) rest
    cases hst : status 0 <;> simp [processLoop, playBack, hst, ih]

theorem processLoop_suffix : ∀ (status : Nat → Status) (l : List RemoteCommand), (processLoop status l).2 <:+ l
  | _, [] => List.suffix_rfl
  | status, command :: rest => by
    have ih := (processLoop_suffix (fun i => status (i + 1)) rest).trans (List.suffix_cons command rest)
    cases hst : status 0 <;> simp [processLoop, hst, ih]

/-- No two commands of the buffer have one id, and the buffer is what processing has left of the commands added, in the
order they were added. -/
structure Ordered (s : Executor) : Prop where
  unique : (s.commands.map (·.uniqueId)).Nodup
  inOrder : playBack s.added s.processed = some s.commands

theorem Ordered.process {s : Executor} (h : Ordered s) {status : Nat → Status} :
    Ordered (processBufferedCommands status s) where
  unique := h.unique.sublist ((processLoop_suffix status s.commands).sublist.map _)
  inOrder := by
    rw [processBufferedCommands, playBack_append, h.inOrder]
    exact playBack_processLoop status s.commands

/-- A call that would start a runner posts it. -/
def StartsRunner (s : Executor) : Call → Prop
  | .processBufferedCommandsWithThread env => s.commands ≠ [] → s.running = false → env.posts = true
  | _ => True

/-- **Without a posted runner `running_` is clear**, and the buffer is in order. -/
structure Ready (s : Executor) : Prop extends Ordered s where
  idle : s.posted = 0 → s.running = false

theorem Ready.step {s : Executor} (h : Ready s) {call : Call} (hstart : StartsRunner s call) : Ready (step s call) := by
  cases call with
  | addCommand ptrCommand =>
    cases ptrCommand with
    | none => exact h
    | some new =>
      unfold RemoteCommandExecutor.step addCommand
      dsimp only
      split
      · exact h
      rename_i hnew
      refine ⟨⟨?_, playBack_add new h.inOrder⟩, h.idle⟩
      have hunique := h.unique
      simp only [List.any_eq_true, not_exists, not_and, beq_iff_eq] at hnew
      simp only [List.map_append, List.nodup_append, List.mem_map]
      grind
  | processBufferedCommandsWithThread env =>
    unfold RemoteCommandExecutor.step processBufferedCommandsWithThread
    dsimp only
    split
    · exact h
    rename_i hnil
    split
    · exact h
    rename_i hrunning
    have hposts := hstart (by simpa using hnil) (by simpa using hrunning)
    exact ⟨⟨h.unique, h.inOrder⟩, fun hposted => by simp [hposts] at hposted⟩
  | processBufferedCommands => exact ⟨h.process, fun _ => rfl⟩
  | runner =>
    unfold RemoteCommandExecutor.step
    dsimp only
    split
    · exact h
    · exact ⟨⟨h.process.unique, h.process.inOrder⟩, fun _ => rfl⟩

/-- **Buffered commands are neither stranded nor lost nor reordered** as long as every runner that is started is
posted. -/
theorem buffered_commands_kept {s : Executor} (hrun : Reaches step StartsRunner {} s) : Ready s :=
  hrun.invariant (fun _ _ h hstart => h.step hstart) ⟨⟨List.nodup_nil, rfl⟩, fun _ => rfl⟩

def syncCommand : RemoteCommand := ⟨"DeleteRemoteTokenCommand"⟩

def retriedRun : List Call :=
  [.addCommand (some syncCommand), .processBufferedCommandsWithThread ⟨true, true, true⟩,
    .runner fun _ => .failureButCanRetry]

theorem retried_command_stays : Ready (retriedRun.foldl step {}) :=
  buffered_commands_kept (reaches_foldl retriedRun _ ⟨trivial, fun _ _ => rfl, trivial, trivial⟩)

/-- **A runner that cannot be posted strands the buffer**: `running_` stays set, and the next call starts none. -/
theorem unposted_runner_strands :
    let s := [Call.addCommand (some syncCommand), .processBufferedCommandsWithThread ⟨true, false, true⟩].foldl step {}
    s.posted = 0 ∧ s.running = true ∧ s.commands = [syncCommand] ∧
      step s (.processBufferedCommandsWithThread ⟨true, true, true⟩) = s := by
  decide

end RemoteCommandExecutor
end AccessToken
