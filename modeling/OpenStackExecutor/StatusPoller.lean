import Mathlib.Data.Nat.Find
import OpenStackExecutor.Executor.Provision

/-!
# The poll law of `waitForStatus`

Spec §4.3: the poller queries the server once per tick and stops at the first answer that is
not "still pending". `wait.Poll` checks once more when the deadline closes its channel, so a
timeout of `secs` seconds allows `secs + 1` checks, the last of them at the deadline. The law
holds for every answering client, so for every sequence of `GetServer` answers: the answerer's
state advances once per check, and `pollResponse` lists the answers check by check.
-/

namespace OpenStackExecutor

/-- An answer on which the poller keeps polling: a status outside the target list that the
pending list allows (an empty pending list allows every status). -/
def KeepPolling (pending target : List String) : Except ClientError Server → Bool
  | .ok current =>
    !strSliceContains target current.status &&
      (pending.isEmpty || strSliceContains pending current.status)
  | .error _ => false

/-- An answer that ends the wait successfully: a target status, or a not-found error while the
target list contains `DELETED`. -/
def Accepting (target : List String) : Except ClientError Server → Bool
  | .ok current => strSliceContains target current.status
  | .error err => isNotFoundError err && strSliceContains target serverStatusDeleted

/-- The error the poller stops with on an answer that neither keeps polling nor accepts. -/
def stopError (serverID : String) : Except ClientError Server → Error
  | .ok current => unexpectedStatus serverID current
  | .error err => .client err

section Law

variable {σ : Type} (answer : σ → (c : Call) → Except ClientError c.Result × σ)
  (serverID : String) (pending target : List String)

/-- The answerer's state before the `i`-th check. -/
def pollState (s : σ) : Nat → σ
  | 0 => s
  | i + 1 => (answer (pollState s i) (.getServer serverID)).2

/-- The `GetServer` answer on the `i`-th check. -/
def pollResponse (s : σ) (i : Nat) : Except ClientError Server :=
  (answer (pollState answer serverID s i) (.getServer serverID)).1

theorem pollResponse_zero (s : σ) :
    pollResponse answer serverID s 0 = (answer s (.getServer serverID)).1 := rfl

/-- One check: the condition asks once and decides on the answer. -/
theorem statusCondition_run (s : σ) :
    Prog.run answer s (statusCondition serverID pending target) =
      ⟨if Accepting target (answer s (.getServer serverID)).1 then .ok true
        else if KeepPolling pending target (answer s (.getServer serverID)).1 then .ok false
        else .error (stopError serverID (answer s (.getServer serverID)).1),
       (answer s (.getServer serverID)).2,
       [⟨.getServer serverID, (answer s (.getServer serverID)).1⟩]⟩ := by
  simp only [statusCondition, Compute.getServer, Prog.ask, Prog.bind_eq, Prog.call_bind,
    Prog.pure_bind, Prog.run_call]
  cases h : (answer s (.getServer serverID)).1 with
  | error err =>
    cases herr : isNotFoundError err <;> cases hdel : strSliceContains target serverStatusDeleted <;>
      simp [herr, hdel, Accepting, KeepPolling, stopError]
  | ok current =>
    cases ht : strSliceContains target current.status
    · cases hp : (pending.isEmpty || strSliceContains pending current.status) <;>
        simp_all [Accepting, KeepPolling, stopError]
    · simp [ht, Accepting]

/-- The last check, when the deadline has closed the poll channel: an answer that keeps polling
now times out. -/
theorem waitForStatus_zero_run (s : σ) :
    Prog.run answer s (waitForStatus serverID pending target 0) =
      if Accepting target (answer s (.getServer serverID)).1 then
        ⟨.ok (), (answer s (.getServer serverID)).2,
          [⟨.getServer serverID, (answer s (.getServer serverID)).1⟩]⟩
      else if KeepPolling pending target (answer s (.getServer serverID)).1 then
        ⟨.error .waitTimeout, (answer s (.getServer serverID)).2,
          [⟨.getServer serverID, (answer s (.getServer serverID)).1⟩]⟩
      else
        ⟨.error (stopError serverID (answer s (.getServer serverID)).1),
          (answer s (.getServer serverID)).2,
          [⟨.getServer serverID, (answer s (.getServer serverID)).1⟩]⟩ := by
  simp only [waitForStatus, poll, Prog.bind_eq, Prog.run_bind, statusCondition_run]
  split_ifs <;> rfl

/-- A wait with `n + 1` ticks left: one check, then, if it keeps polling, the wait with `n`
ticks left from the answerer's next state. -/
theorem waitForStatus_succ_run (n : Nat) (s : σ) :
    Prog.run answer s (waitForStatus serverID pending target (n + 1)) =
      if Accepting target (answer s (.getServer serverID)).1 then
        ⟨.ok (), (answer s (.getServer serverID)).2,
          [⟨.getServer serverID, (answer s (.getServer serverID)).1⟩]⟩
      else if KeepPolling pending target (answer s (.getServer serverID)).1 then
        let o := Prog.run answer (answer s (.getServer serverID)).2
          (waitForStatus serverID pending target n)
        ⟨o.result, o.state, ⟨.getServer serverID, (answer s (.getServer serverID)).1⟩ :: o.trace⟩
      else
        ⟨.error (stopError serverID (answer s (.getServer serverID)).1),
          (answer s (.getServer serverID)).2,
          [⟨.getServer serverID, (answer s (.getServer serverID)).1⟩]⟩ := by
  simp only [waitForStatus, poll, Prog.bind_eq, Prog.run_bind, statusCondition_run]
  split_ifs <;> rfl

/-- A wait that succeeds has seen an accepting answer for its server. -/
theorem waitForStatus_ok_accepted (n : Nat) (s : σ)
    (h : (Prog.run answer s (waitForStatus serverID pending target n)).result = .ok ()) :
    ∃ r, (⟨.getServer serverID, r⟩ : Event) ∈
      (Prog.run answer s (waitForStatus serverID pending target n)).trace ∧
        Accepting target r = true := by
  induction n generalizing s with
  | zero =>
    rw [waitForStatus_zero_run] at h ⊢
    split_ifs at h ⊢ with hacc
    exact ⟨_, List.mem_singleton_self _, hacc⟩
  | succ n ih =>
    rw [waitForStatus_succ_run] at h ⊢
    split_ifs at h ⊢ with hacc
    · exact ⟨_, List.mem_singleton_self _, hacc⟩
    · obtain ⟨r, hr, hacc'⟩ := ih _ h
      exact ⟨r, List.mem_cons_of_mem _ hr, hacc'⟩

end Law

end OpenStackExecutor
