import Backplane.Os.File
import Backplane.Utils.Bytes
import Backplane.Utils.Format

/-!
# The TFTP server

Model of `CTftpServerTenant` (`include/f_core/net/application/c_tftp_server_tenant.h`,
`lib/f_core/net/application/c_tftp_server_tenant.cpp`).

* The answers of `dataSock.ReceiveAsynchronous` are inputs, one `Poll` a call. `waitForAck` polls
  in a loop and counts only failures, so it waits as long as nothing arrives; when the polls given
  end first, the server is still waiting.
* What is handed to `dataSock.TransmitAsynchronous` is recorded, in order. Its result is ignored,
  as in the code.
* `size_t` and `off_t` have 32 bits (`sizeT`, `offT`), block numbers 16.

Results:
* `waitForAck_acked`: whatever time the acknowledgement takes, the wait ends with success.
* `sendBlocks_spec`: the loop over the blocks, by induction on the blocks that remain.
* `transfer_complete`: a transfer sends all blocks, numbered and framed, and they make the file.
-/

namespace Backplane.Net

open Backplane.Os
open Backplane.Utils

/-- An answer of `ReceiveAsynchronous`: an error, with `errno` and whether it is `EWOULDBLOCK` or
`EAGAIN`, or what was received, nothing included. -/
inductive Poll
  | error (errno : Int) (again : Bool)
  | received (bytes : List UInt8)

/-- `TftpOpcode`. -/
def RRQ : UInt8 := 1
def DATA : UInt8 := 3
def ACK : UInt8 := 4

def rwRequestPacketSize : Nat := 512

/-- `TftpMode`. -/
inductive TftpMode
  | netascii | octet | mail | undefinedTftpMode
  deriving DecidableEq

/-- `tftpModeStrings`, in order, with the modes they stand for. -/
def tftpModeStrings : List (List UInt8 × TftpMode) :=
  [(text "netascii", .netascii), (text "octet", .octet), (text "mail", .mail)]

/-- The zero-terminated string that starts `bytes`. -/
def cstr (bytes : List UInt8) : List UInt8 := bytes.takeWhile (· != 0)

def maxRetries : Nat := 5
def ackPktSize : Nat := 4
def maxDataSize : Nat := 512

/-- `waitForAck`, from a count of retries: its result and the polls it leaves, or `none` while it
still polls. -/
def waitForAck (blockNum : UInt16) (retries : Nat) : List Poll → Option (Int × List Poll)
  | [] => if retries < maxRetries then none else some (-1, [])
  | poll :: polls =>
    if retries < maxRetries then
      match poll with
      | .error errno again =>
        -- If no data available yet, wait and retry.
        if again then waitForAck blockNum (retries + 1) polls else some (errno, polls)
      | .received bytes =>
        match bytes.take ackPktSize with
        | [a0, a1, a2, a3] =>
          if word a0 a1 = ACK.toUInt16 ∧ word a2 a3 = blockNum then some (0, polls)
          else some (-1, polls)
        | _ => waitForAck blockNum retries polls
    else some (-1, poll :: polls)

/-- The four bytes before the data. -/
def dataHeader (blockNumber : UInt16) : List UInt8 :=
  [0, DATA, (blockNumber >>> 8).toUInt8, blockNumber.toUInt8]

/-- How the loop over the blocks ends: in a wait, in a `return`, or at the end of the file. -/
inductive LoopExit
  | waiting
  | returned
  | finished (blockNumber : UInt16) (polls : List Poll)

/-- The loop over the blocks: what it sends and how it ends. Every round that goes on takes a poll
off the list, so `fuel` above its length is enough (`sendBlocks_fuel`). -/
def sendBlocks (file : CFile) (fileSize : Int) :
    Nat → UInt16 → Int → List Poll → List (List UInt8) × LoopExit
  | 0, _, _, _ => ([], .waiting)
  | fuel + 1, blockNumber, offset, polls =>
    if offset < fileSize then
      let data := file.read maxDataSize offset
      let readLen := sizeT data.1
      if readLen ≤ 0 then ([], .returned)
      else
        let response := dataHeader blockNumber ++ data.2 ++
          List.replicate (maxDataSize - data.2.length) 0
        let packet := response.take (sizeT (readLen + 4))
        -- Wait for ACK before sending the next block.
        match waitForAck blockNumber 0 polls with
        | none => ([packet], .waiting)
        | some (ret, polls) =>
          if ret ≠ 0 then ([packet], .returned)
          else
            let rest := sendBlocks file fileSize fuel (blockNumber + 1) (offT (offset + readLen))
              polls
            (packet :: rest.1, rest.2)
    else ([], .finished blockNumber polls)

/-- `generateTree`, which always fails. -/
def generateTree : Int := -1

/-- `strcmp` with each mode string in turn. -/
def tftpMode (modeStr : List UInt8) : TftpMode :=
  ((tftpModeStrings.find? fun m => m.1 == modeStr).map Prod.snd).getD .undefinedTftpMode

/-- `maxFilenameLen`. -/
def maxFilenameLen : Nat := rwRequestPacketSize - (text "netascii").length + 4

/-- `handleReadRequest` of a request in its 512-byte buffer: the packets sent on the data socket,
and whether it has returned. `fs` answers for the path in the request. -/
def handleReadRequest (fs : List UInt8 → Fs) (packet : List UInt8) (polls : List Poll) :
    List (List UInt8) × Bool :=
  let filename := cstr (packet.drop 2)
  let filenameLen := min filename.length maxFilenameLen
  let modeStr := cstr (packet.drop (2 + filenameLen + 1))
  -- Handle a special "tree" request.
  if filename.take 4 = text "tree" ∧ generateTree < 0 then ([], true)
  else if tftpMode modeStr ≠ .octet then ([], true)
  else
    let file := CFile.new (fs filename) FS_O_READ
    if file.getInitStatus < 0 then ([], true)
    else
      let fileSize := offT file.getFileSize
      if fileSize < 0 then ([], true)
      else
        match sendBlocks file fileSize (polls.length + 1) 1 0 polls with
        | (sent, .waiting) => (sent, false)
        | (sent, .returned) => (sent, true)
        | (sent, .finished blockNumber polls) =>
          -- an exact multiple of 512: send a final empty data packet
          if fileSize % maxDataSize = 0 then
            (sent ++ [dataHeader blockNumber], (waitForAck blockNumber 0 polls).isSome)
          else (sent, true)

/-! ## Waiting for an acknowledgement -/

/-- The acknowledgement of a block. -/
def ackPacket (blockNum : UInt16) : List UInt8 :=
  [0, ACK, (blockNum >>> 8).toUInt8, blockNum.toUInt8]

/-- A poll that the server tries again after, which it counts. -/
def Poll.again : Poll → Bool
  | .error _ again => again
  | .received _ => false

/-- Polls that do not end a wait: nothing, datagrams shorter than an acknowledgement, and fewer
failures than the server counts to. -/
structure Idle (retries : Nat) (polls : List Poll) : Prop where
  short : ∀ bytes, .received bytes ∈ polls → bytes.length < ackPktSize
  again : ∀ errno again, .error errno again ∈ polls → again = true
  retries_lt : retries + polls.countP Poll.again < maxRetries

/-- The polls acknowledge the `n` blocks from `b` on, each after any number of idle polls, and go
on with `rest`. -/
inductive Acknowledged : UInt16 → Nat → List Poll → List Poll → Prop
  | nil (b : UInt16) (rest : List Poll) : Acknowledged b 0 rest rest
  | cons (b : UInt16) (n : Nat) (idle polls rest : List Poll) (hidle : Idle 0 idle)
      (later : Acknowledged (b + 1) n polls rest) :
      Acknowledged b (n + 1) (idle ++ .received (ackPacket b) :: polls) rest

/-- One idle poll: the wait goes on, with a failure more if it was one. -/
theorem waitForAck_idle {b : UInt16} {retries : Nat} {p : Poll} {idle : List Poll}
    (h : Idle retries (p :: idle)) (polls : List Poll) :
    ∃ retries', Idle retries' idle ∧
      waitForAck b retries (p :: polls) = waitForAck b retries' polls := by
  have hcount := h.retries_lt
  have hr : retries < maxRetries := by omega
  have hshort : ∀ bytes, .received bytes ∈ idle → bytes.length < ackPktSize :=
    fun bytes hb => h.short bytes (List.mem_cons_of_mem _ hb)
  have hagain : ∀ errno again, .error errno again ∈ idle → again = true :=
    fun errno again he => h.again errno again (List.mem_cons_of_mem _ he)
  cases p with
  | error errno again =>
    cases h.again errno again (List.mem_cons_self ..)
    rw [List.countP_cons_of_pos (by rfl)] at hcount
    refine ⟨retries + 1, ⟨hshort, hagain, by omega⟩, ?_⟩
    rw [waitForAck, if_pos hr]
    rfl
  | received bytes =>
    rw [List.countP_cons_of_neg (by exact Bool.false_ne_true)] at hcount
    refine ⟨retries, ⟨hshort, hagain, hcount⟩, ?_⟩
    have hbytes := h.short bytes (List.mem_cons_self ..)
    rw [waitForAck, if_pos hr, List.take_of_length_le (Nat.le_of_lt hbytes)]
    split
    · -- no four bytes were received
      exact absurd hbytes (Nat.lt_irrefl _)
    · rfl

/-- **However long the acknowledgement takes, the wait for it succeeds.** -/
theorem waitForAck_acked {b : UInt16} {idle : List Poll} {retries : Nat}
    (hidle : Idle retries idle) (polls : List Poll) :
    waitForAck b retries (idle ++ .received (ackPacket b) :: polls) = some (0, polls) := by
  induction idle generalizing retries with
  | nil =>
    have hop : word 0 ACK = ACK.toUInt16 := by decide
    have hr : retries < maxRetries := hidle.retries_lt
    rw [List.nil_append, waitForAck, if_pos hr]
    exact if_pos ⟨hop, word_bytes b⟩
  | cons p idle ih =>
    obtain ⟨retries', hidle', heq⟩ :=
      waitForAck_idle (b := b) hidle (idle ++ .received (ackPacket b) :: polls)
    rw [List.cons_append, heq]
    exact ih hidle'

/-- A wait that succeeds has read a poll. -/
theorem waitForAck_length {b : UInt16} {retries : Nat} {polls rest : List Poll}
    (h : waitForAck b retries polls = some (0, rest)) : rest.length < polls.length := by
  induction polls generalizing retries with
  | nil =>
    rw [waitForAck] at h
    split at h <;> cases h
  | cons p polls ih =>
    unfold waitForAck at h
    split at h
    · split at h
      · split at h
        · exact Nat.lt_succ_of_lt (ih h)
        · cases h
          exact Nat.lt_succ_self _
      · split at h
        · split at h
          · cases h
            exact Nat.lt_succ_self _
          · cases h
        · exact Nat.lt_succ_of_lt (ih h)
    · cases h

/-- The last block of an acknowledged transfer, apart. -/
theorem Acknowledged.last {b : UInt16} {n : Nat} {polls rest : List Poll}
    (h : Acknowledged b (n + 1) polls rest) :
    ∃ mid, Acknowledged b n polls mid ∧ Acknowledged (b + UInt16.ofNat n) 1 mid rest := by
  induction n generalizing b polls with
  | zero => exact ⟨polls, .nil b polls, by simpa using h⟩
  | succ n ih =>
    cases h with
    | cons _ _ idle polls _ hidle later =>
      obtain ⟨mid, hfirst, hlast⟩ := ih later
      refine ⟨mid, .cons b n idle polls mid hidle hfirst, ?_⟩
      have hnum : b + UInt16.ofNat (n + 1) = b + 1 + UInt16.ofNat n := by
        rw [UInt16.ofNat_add]
        grind
      rwa [hnum]

theorem Acknowledged.le_length {b : UInt16} {n : Nat} {polls rest : List Poll}
    (h : Acknowledged b n polls rest) : n ≤ polls.length := by
  induction h with
  | nil => exact Nat.zero_le _
  | cons b n idle polls rest hidle later ih =>
    rw [List.length_append, List.length_cons]
    omega

/-- A wait for the first block of those that are left. -/
theorem Acknowledged.wait {b : UInt16} {n : Nat} {polls rest : List Poll}
    (h : Acknowledged b (n + 1) polls rest) :
    ∃ mid, waitForAck b 0 polls = some (0, mid) ∧ Acknowledged (b + 1) n mid rest := by
  cases h with
  | cons _ _ idle polls _ hidle later =>
    exact ⟨polls, waitForAck_acked hidle polls, later⟩

/-! ## The blocks -/

/-- The data of block `i`, counted from 0. -/
def payload (content : List UInt8) (i : Nat) : List UInt8 :=
  (content.drop (512 * i)).take 512

/-- A DATA packet. -/
def dataPacket (blockNumber : UInt16) (data : List UInt8) : List UInt8 :=
  dataHeader blockNumber ++ data

theorem payload_length (content : List UInt8) (i : Nat) :
    (payload content i).length = min 512 (content.length - 512 * i) := by
  unfold payload
  rw [List.length_take, List.length_drop]

/-- The blocks make the file, as far as they go. -/
theorem payloads_flatten (content : List UInt8) (n : Nat) :
    ((List.range n).map (payload content)).flatten = content.take (512 * n) := by
  induction n with
  | zero => rfl
  | succ n ih =>
    rw [List.range_succ, List.map_append, List.flatten_append, ih, Nat.mul_succ, List.take_add]
    simp [payload]

/-- **The fuel does not matter** once it exceeds the number of polls. -/
theorem sendBlocks_fuel (file : CFile) (fileSize : Int) {fuel : Nat} :
    ∀ {b : UInt16} {offset : Int} {polls : List Poll}, polls.length < fuel →
      sendBlocks file fileSize (fuel + 1) b offset polls =
        sendBlocks file fileSize fuel b offset polls := by
  induction fuel with
  | zero => intro b offset polls h; exact absurd h (Nat.not_lt_zero _)
  | succ fuel ih =>
    intro b offset polls h
    rw [sendBlocks, sendBlocks]
    split
    · simp only
      split
      · rfl
      · cases hw : waitForAck b 0 polls with
        | none => rfl
        | some result =>
          obtain ⟨ret, rest⟩ := result
          simp only
          split
          · rfl
          · rename_i hret
            have hzero : ret = 0 := by omega
            subst hzero
            rw [ih (Nat.lt_of_lt_of_le (waitForAck_length hw) (Nat.le_of_lt_succ h))]
    · rfl

/-- The packet of a round of the loop: header and data, without the rest of the buffer. -/
theorem response_take (blockNumber : UInt16) {data : List UInt8} {readLen : Nat}
    (hlen : data.length = readLen) (hle : readLen ≤ 512) :
    (dataHeader blockNumber ++ data ++ List.replicate (maxDataSize - data.length) 0).take
      (sizeT (readLen + 4)) = dataPacket blockNumber data := by
  have hsize : sizeT (readLen + 4) = (dataHeader blockNumber ++ data).length := by
    unfold sizeT dataHeader
    simp only [List.length_append, List.length_cons, List.length_nil]
    omega
  rw [hsize, List.take_left]
  rfl

/-- **A round of the loop.** -/
theorem sendBlocks_round {file : CFile} {content : List UInt8}
    (hfile : file.Holds maxDataSize content) (hlen : content.length < 2 ^ 31) (fuel : Nat)
    (b : UInt16) {j : Nat} (hj : 512 * j < content.length) {polls mid : List Poll}
    (hwait : waitForAck b 0 polls = some (0, mid)) :
    sendBlocks file content.length (fuel + 1) b (min (512 * j) content.length : Nat) polls =
      (dataPacket b (payload content j) ::
        (sendBlocks file content.length fuel (b + 1)
          (min (512 * (j + 1)) content.length : Nat) mid).1,
        (sendBlocks file content.length fuel (b + 1)
          (min (512 * (j + 1)) content.length : Nat) mid).2) := by
  have hoff : min (512 * j) content.length = 512 * j := by omega
  have hplen := payload_length content j
  have hread : file.read maxDataSize (512 * j : Nat) =
      (((payload content j).length : Int), payload content j) := by
    rw [hfile.read _ hj, hplen]
    rfl
  have hreadLen : sizeT ((payload content j).length : Nat) = (payload content j).length := by
    unfold sizeT
    omega
  have hnext : offT ((512 * j : Nat) + ((payload content j).length : Nat)) =
      (min (512 * (j + 1)) content.length : Nat) := by
    unfold offT
    rw [Int.bmod_eq_of_le] <;> omega
  rw [sendBlocks, hoff, if_pos (by omega), hread]
  simp only [hreadLen]
  rw [if_neg (by omega), response_take b rfl (by omega), hwait]
  simp only [hnext]
  rfl

/-- **The loop over the blocks**, by induction on the blocks that remain. -/
theorem sendBlocks_spec {file : CFile} {content : List UInt8}
    (hfile : file.Holds maxDataSize content) (hlen : content.length < 2 ^ 31) {n : Nat} :
    ∀ {j : Nat} {b : UInt16} {polls rest : List Poll} {fuel : Nat},
      j + n = (content.length + 511) / 512 → Acknowledged b n polls rest → n < fuel →
      sendBlocks file content.length fuel b (min (512 * j) content.length : Nat) polls =
        ((List.range n).map fun i => dataPacket (b + UInt16.ofNat i) (payload content (j + i)),
          .finished (b + UInt16.ofNat n) rest) := by
  induction n with
  | zero =>
    intro j b polls rest fuel hj hacks hfuel
    cases hacks
    obtain ⟨fuel, rfl⟩ := Nat.exists_eq_succ_of_ne_zero (Nat.ne_of_gt hfuel)
    rw [sendBlocks, if_neg (by omega)]
    simp
  | succ n ih =>
    intro j b polls rest fuel hj hacks hfuel
    obtain ⟨fuel, rfl⟩ := Nat.exists_eq_succ_of_ne_zero (Nat.ne_of_gt (Nat.zero_lt_of_lt hfuel))
    obtain ⟨mid, hwait, hlater⟩ := hacks.wait
    have hnum : ∀ i : Nat, b + 1 + UInt16.ofNat i = b + UInt16.ofNat (i + 1) := by
      intro i
      rw [UInt16.ofNat_add]
      grind
    rw [sendBlocks_round hfile hlen fuel b (by omega) hwait,
      ih (by omega) hlater (by omega), List.range_succ_eq_map, List.map_cons, List.map_map, hnum]
    refine Prod.ext (List.cons_eq_cons.mpr ⟨?_, ?_⟩) rfl
    · simp
    · apply List.map_congr_left
      intro i _
      show dataPacket (b + 1 + UInt16.ofNat i) (payload content (j + 1 + i)) =
        dataPacket (b + UInt16.ofNat (i + 1)) (payload content (j + (i + 1)))
      rw [hnum, Nat.add_assoc, Nat.add_comm 1 i]

/-! ## The request -/

/-- A read request for `name` in octet mode, as it lies in the server's buffer. -/
def readRequest (name tail : List UInt8) : List UInt8 :=
  [0, RRQ] ++ name ++ 0 :: text "octet" ++ 0 :: tail

theorem cstr_append {s : List UInt8} (hs : (0 : UInt8) ∉ s) (tail : List UInt8) :
    cstr (s ++ 0 :: tail) = s := by
  have hall : ∀ c ∈ s, (c != 0) = true := by
    intro c hc
    rw [bne_iff_ne]
    rintro rfl
    exact hs hc
  unfold cstr
  rw [List.takeWhile_append_of_pos hall, List.takeWhile_cons_of_neg (by decide), List.append_nil]

/-- The server reads name and mode off a request that fits its buffer. -/
theorem readRequest_parsed {name tail : List UInt8} (hname : (0 : UInt8) ∉ name)
    (hbuf : (readRequest name tail).length = rwRequestPacketSize) :
    cstr ((readRequest name tail).drop 2) = name ∧
      cstr ((readRequest name tail).drop (2 + min name.length maxFilenameLen + 1)) =
        text "octet" := by
  have hdrop : (readRequest name tail).drop 2 = name ++ 0 :: (text "octet" ++ 0 :: tail) := by
    simp [readRequest]
  have hmax : maxFilenameLen = 508 := by decide
  have hfits : name.length ≤ 508 := by
    unfold readRequest rwRequestPacketSize at hbuf
    simp only [List.length_append, List.length_cons, List.length_nil] at hbuf
    omega
  constructor
  · rw [hdrop, cstr_append hname]
  · rw [hmax, Nat.min_eq_left hfits, Nat.add_assoc, ← List.drop_drop, hdrop, ← List.drop_drop,
      List.drop_left]
    exact cstr_append (by decide) tail

theorem mapIdx_range {α β : Type*} (f : Nat → α) (g : Nat → α → β) (n : Nat) :
    ((List.range n).map f).mapIdx g = (List.range n).map fun i => g i (f i) := by
  apply List.ext_getElem
  · simp
  · intro i h h'
    simp

/-- The blocks of a whole file, the final empty one included, all acknowledged. -/
theorem blocks_sent {file : CFile} {content : List UInt8} (hfile : file.Holds maxDataSize content)
    (hlen : content.length < 2 ^ 31) {polls rest : List Poll}
    (hacks : Acknowledged 1 (content.length / 512 + 1) polls rest) :
    (match sendBlocks file content.length (polls.length + 1) 1 0 polls with
      | (sent, .waiting) => (sent, false)
      | (sent, .returned) => (sent, true)
      | (sent, .finished blockNumber polls) =>
        if (content.length : Int) % maxDataSize = 0 then
          (sent ++ [dataHeader blockNumber], (waitForAck blockNumber 0 polls).isSome)
        else (sent, true)) =
      ((List.range (content.length / 512 + 1)).map fun i =>
        dataPacket (UInt16.ofNat (i + 1)) (payload content i), true) := by
  have hnum : ∀ i : Nat, (1 : UInt16) + UInt16.ofNat i = UInt16.ofNat (i + 1) := by
    intro i
    rw [UInt16.ofNat_add]
    grind
  have hspec := fun n polls' rest' => @sendBlocks_spec file content hfile hlen n 0 1 polls' rest'
    (polls.length + 1)
  have hzero : ((min (512 * 0) content.length : Nat) : Int) = 0 := by omega
  have hle := hacks.le_length
  by_cases hmul : content.length % 512 = 0
  · -- the last of the blocks is the empty one after the loop
    obtain ⟨mid, hfirst, hlast⟩ := hacks.last
    obtain ⟨final, hwait, -⟩ := hlast.wait
    have hloop := hspec _ polls mid (by omega) hfirst (by omega)
    rw [hzero] at hloop
    have hempty : payload content (content.length / 512) = [] := by
      apply List.eq_nil_of_length_eq_zero
      rw [payload_length]
      omega
    have hcond : (content.length : Int) % maxDataSize = 0 := by
      unfold maxDataSize
      omega
    rw [hloop]
    simp only
    rw [if_pos hcond, hwait, List.range_succ, List.map_append, List.map_singleton, hempty, ← hnum]
    simp only [Nat.zero_add, hnum]
    unfold dataPacket
    rw [List.append_nil]
    rfl
  · have hloop := hspec _ polls rest (by omega) hacks (by omega)
    rw [hzero] at hloop
    have hcond : ¬ (content.length : Int) % maxDataSize = 0 := by
      unfold maxDataSize
      omega
    rw [hloop]
    simp only
    rw [if_neg hcond]
    simp only [Nat.zero_add, hnum]

/-- **A transfer is complete and correctly framed.** For a file of fewer than 2^31 bytes that is
read as it is, and a client that acknowledges every block, the server returns after having sent
`L / 512 + 1` DATA packets, numbered from 1 modulo 2^16, of 512 bytes each but the last, which has
fewer, and together they carry the file. -/
theorem transfer_complete {fs : List UInt8 → Fs} {name tail content : List UInt8}
    {polls rest : List Poll} (hname : (0 : UInt8) ∉ name) (htree : name.take 4 ≠ text "tree")
    (hbuf : (readRequest name tail).length = rwRequestPacketSize)
    (hfile : (CFile.new (fs name) FS_O_READ).Holds maxDataSize content)
    (hlen : content.length < 2 ^ 31)
    (hacks : Acknowledged 1 (content.length / 512 + 1) polls rest) :
    ∃ payloads : List (List UInt8),
      handleReadRequest fs (readRequest name tail) polls =
        (payloads.mapIdx fun i data => dataPacket (UInt16.ofNat (i + 1)) data, true) ∧
      payloads.length = content.length / 512 + 1 ∧
      (∀ data ∈ payloads.dropLast, data.length = 512) ∧
      (∀ data, payloads.getLast? = some data → data.length < 512) ∧
      payloads.flatten = content := by
  refine ⟨(List.range (content.length / 512 + 1)).map (payload content), ?_, ?_, ?_, ?_, ?_⟩
  · rw [mapIdx_range]
    obtain ⟨hfilename, hmode⟩ := readRequest_parsed hname hbuf
    have hsize : offT (CFile.new (fs name) FS_O_READ).getFileSize = content.length := by
      rw [hfile.size]
      unfold offT
      rw [Int.bmod_eq_of_le] <;> omega
    unfold handleReadRequest
    simp only [hfilename, hmode]
    rw [if_neg (fun h => htree h.1), if_neg (by decide), if_neg hfile.opened, hsize,
      if_neg (by omega), blocks_sent hfile hlen hacks]
  · rw [List.length_map, List.length_range]
  · intro data hdata
    rw [List.range_succ, List.map_append, List.map_singleton, List.dropLast_concat] at hdata
    obtain ⟨i, hi, rfl⟩ := List.mem_map.mp hdata
    have hlt := List.mem_range.mp hi
    rw [payload_length]
    omega
  · intro data hdata
    rw [List.range_succ, List.map_append, List.map_singleton, List.getLast?_concat] at hdata
    cases hdata
    rw [payload_length]
    omega
  · rw [payloads_flatten, List.take_of_length_le]
    omega

/-- A file of exactly one block. -/
def oneBlock : List UInt8 := List.replicate 512 7

/-- The client answers the first block at once and the final empty one after an empty poll. -/
theorem transfer_complete_oneBlock :
    ∃ payloads : List (List UInt8),
      handleReadRequest (fun _ => Fs.serving oneBlock)
        (readRequest (text "a") (List.replicate 502 0))
        [.received (ackPacket 1), .received [], .received (ackPacket 2)] =
        (payloads.mapIdx fun i data => dataPacket (UInt16.ofNat (i + 1)) data, true) ∧
      payloads.length = oneBlock.length / 512 + 1 ∧
      (∀ data ∈ payloads.dropLast, data.length = 512) ∧
      (∀ data, payloads.getLast? = some data → data.length < 512) ∧
      payloads.flatten = oneBlock := by
  have hsize : oneBlock.length = 512 := List.length_replicate
  have hacks : Acknowledged 1 (512 / 512 + 1)
      [.received (ackPacket 1), .received [], .received (ackPacket 2)] [] :=
    .cons 1 1 [] _ _ ⟨by simp, by simp, by decide⟩
      (.cons 2 0 [.received []] _ _ ⟨by simp [ackPktSize], by simp, by decide⟩ (.nil _ _))
  exact transfer_complete (by decide) (by decide) (by decide +kernel)
    (holds_serving oneBlock maxDataSize) (by rw [hsize]; decide) (by rw [hsize]; exact hacks)

end Backplane.Net
