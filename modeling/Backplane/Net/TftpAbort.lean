import Backplane.Net.Tftp

/-!
# File errors during a transfer

`handleReadRequest` once more, with everything it does to the outside: the calls of the file
system with what they return, and what it hands to `TransmitAsynchronous`, with the length
(`TftpEvent`). The file system may answer differently in each round of the loop.

`CFile` reports errors as negative numbers, or as size 0; the loop keeps the result of `Read` in a
`size_t`, where no number is negative.

Results:
* `sent_handleReadRequestEvents`: the packets are those of `handleReadRequest`.
* `sendBlocksEvents_fits_iff`: what the lengths of the packets say about the reads before them.
* `aborts_iff`: a request aborts on file errors as it should iff there is none.
* `aborts_fails`: a failed `fs_stat`, sent as an empty file.
-/

namespace Backplane.Net

open Backplane.Os
open Backplane.Utils

/-- What a request does to the outside. -/
inductive TftpEvent
  | file (call : FsCall)
  | transmit (response : List UInt8) (len : Nat)

/-- A call of the file system that reported an error. -/
def TftpEvent.fileError : TftpEvent → Bool
  | .file call => call.failed
  | .transmit _ _ => false

/-- A packet has room for its header, and for 512 bytes of data at most. -/
def TftpEvent.fits : TftpEvent → Bool
  | .file _ => true
  | .transmit _ len => 4 ≤ len ∧ len ≤ 516

/-- The loop over the blocks, with its events. Round `i` reads `file i`. -/
def sendBlocksEvents (file : Nat → CFile) (fileSize : Int) :
    Nat → Nat → UInt16 → Int → List Poll → List TftpEvent × LoopExit
  | 0, _, _, _, _ => ([], .waiting)
  | fuel + 1, i, blockNumber, offset, polls =>
    if offset < fileSize then
      let data := (file i).read maxDataSize offset
      let calls := ((file i).readCalls maxDataSize offset).map TftpEvent.file
      let readLen := sizeT data.1
      if readLen ≤ 0 then (calls, .returned)
      else
        let response := dataHeader blockNumber ++ data.2 ++
          List.replicate (maxDataSize - data.2.length) 0
        let events := calls ++ [.transmit response (sizeT (readLen + 4))]
        match waitForAck blockNumber 0 polls with
        | none => (events, .waiting)
        | some (ret, polls) =>
          if ret ≠ 0 then (events, .returned)
          else
            let rest := sendBlocksEvents file fileSize fuel (i + 1) (blockNumber + 1)
              (offT (offset + readLen)) polls
            (events ++ rest.1, rest.2)
    else ([], .finished blockNumber polls)

/-- What `handleReadRequest` does with the file once it is open: `fs i` answers in round `i`. -/
def transferEvents (file : CFile) (fs : Nat → Fs) (polls : List Poll) : List TftpEvent × Bool :=
  let stat := TftpEvent.file file.getFileSizeCall
  let fileSize := offT file.getFileSize
  if fileSize < 0 then ([stat], true)
  else
    match sendBlocksEvents (fun i => { file with fs := fs i }) fileSize (polls.length + 1) 0 1 0
      polls with
    | (events, .waiting) => (stat :: events, false)
    | (events, .returned) => (stat :: events, true)
    | (events, .finished blockNumber polls) =>
      if fileSize % maxDataSize = 0 then
        (stat :: events ++ [.transmit (dataHeader blockNumber) 4],
          (waitForAck blockNumber 0 polls).isSome)
      else (stat :: events, true)

/-- `handleReadRequest`, with its events and whether it has returned. `fs name` answers for the
path `name` before the loop and in each round. -/
def handleReadRequestEvents (fs : List UInt8 → Fs × (Nat → Fs)) (packet : List UInt8)
    (polls : List Poll) : List TftpEvent × Bool :=
  let filename := cstr (packet.drop 2)
  let filenameLen := min filename.length maxFilenameLen
  let modeStr := cstr (packet.drop (2 + filenameLen + 1))
  if filename.take 4 = text "tree" ∧ generateTree < 0 then ([], true)
  else if tftpMode modeStr ≠ .octet then ([], true)
  else
    let file := CFile.new (fs filename).1 FS_O_READ
    if file.getInitStatus < 0 then ([], true) else transferEvents file (fs filename).2 polls

/-- **A file error aborts the transfer**: nothing is transmitted after it, and the request returns.
No packet is longer than 516 bytes or shorter than 4. -/
structure AbortsOnFileError (events : List TftpEvent) (returned : Bool) : Prop where
  aborts : ∀ pre ev post, events = pre ++ ev :: post → ev.fileError = true →
    (∀ response len, .transmit response len ∉ post) ∧ returned = true
  fits : ∀ ev ∈ events, ev.fits = true

/-! ## The packets of the request -/

/-- The bytes of the packets. -/
def sent (events : List TftpEvent) : List (List UInt8) :=
  events.filterMap fun
    | .file _ => none
    | .transmit response len => some (response.take len)

theorem sent_append (l l' : List TftpEvent) : sent (l ++ l') = sent l ++ sent l' :=
  List.filterMap_append

@[simp] theorem sent_file_cons (call : FsCall) (l : List TftpEvent) :
    sent (.file call :: l) = sent l := rfl

@[simp] theorem sent_map_file (calls : List FsCall) : sent (calls.map TftpEvent.file) = [] := by
  unfold sent
  rw [List.filterMap_map]
  exact List.filterMap_eq_nil_iff.mpr fun _ _ => rfl

theorem sent_sendBlocksEvents (file : CFile) (fileSize : Int) (fuel : Nat) :
    ∀ (i : Nat) (b : UInt16) (offset : Int) (polls : List Poll),
      (sent (sendBlocksEvents (fun _ => file) fileSize fuel i b offset polls).1,
        (sendBlocksEvents (fun _ => file) fileSize fuel i b offset polls).2) =
      sendBlocks file fileSize fuel b offset polls := by
  induction fuel with
  | zero => intro i b offset polls; rfl
  | succ fuel ih =>
    intro i b offset polls
    rw [sendBlocksEvents, sendBlocks]
    split
    · simp only
      split
      · simp
      · cases hw : waitForAck b 0 polls with
        | none => simp [sent]
        | some result =>
          obtain ⟨ret, rest⟩ := result
          simp only
          split
          · simp [sent]
          · have hih := Prod.ext_iff.mp (ih (i + 1) (b + 1)
              (offT (offset + sizeT (file.read maxDataSize offset).1)) rest)
            simp only at hih
            rw [← hih.1, ← hih.2, sent_append, sent_append, sent_map_file]
            rfl
    · rfl

/-- **The packets are those of `handleReadRequest`.** -/
theorem sent_handleReadRequestEvents (fs : List UInt8 → Fs) (packet : List UInt8)
    (polls : List Poll) :
    (sent (handleReadRequestEvents (fun name => (fs name, fun _ => fs name)) packet polls).1,
      (handleReadRequestEvents (fun name => (fs name, fun _ => fs name)) packet polls).2) =
    handleReadRequest fs packet polls := by
  unfold handleReadRequestEvents handleReadRequest
  simp only
  split
  · rfl
  · split
    · rfl
    · split
      · rfl
      · generalize hfile : CFile.new (fs (cstr (packet.drop 2))) FS_O_READ = file
        have hfs : { file with fs := fs (cstr (packet.drop 2)) } = file := by
          rw [← hfile]
          rfl
        unfold transferEvents
        simp only [hfs]
        split
        · rfl
        · rw [← sent_sendBlocksEvents _ _ _ 0]
          obtain ⟨events, exit⟩ :=
            sendBlocksEvents (fun _ => file) (offT file.getFileSize) (polls.length + 1) 0 1 0 polls
          cases exit with
          | waiting => rfl
          | returned => rfl
          | finished blockNumber rest =>
            simp only
            split
            · rw [List.cons_append, sent_file_cons, sent_append]
              rfl
            · rfl

/-! ## The length of a packet -/

/-- **A negative result in a `size_t`** is not 0, and four more make no packet length. -/
theorem sizeT_of_neg {ret : Int} (hge : -2 ^ 31 ≤ ret) (h : ret < 0) :
    ¬ sizeT ret ≤ 0 ∧ ¬ (4 ≤ sizeT (sizeT ret + 4) ∧ sizeT (sizeT ret + 4) ≤ 516) := by
  unfold sizeT
  omega

theorem sizeT_of_le {ret : Int} (h : ¬ ret < 0) (hle : ret ≤ maxDataSize) :
    4 ≤ sizeT (sizeT ret + 4) ∧ sizeT (sizeT ret + 4) ≤ 516 := by
  unfold maxDataSize at hle
  unfold sizeT
  omega

/-- A file that was opened to be read, and answers as documented. -/
structure Readable (file : CFile) : Prop where
  opened : ¬ file.initStatus < 0
  flags : file.flags &&& FS_O_READ ≠ 0
  documented : file.fs.Documented

/-- The calls of a read, clean or not. -/
theorem readCalls_clean_iff {file : CFile} (h : Readable file) (offset : Int) :
    (∀ ev ∈ (file.readCalls maxDataSize offset).map TftpEvent.file, ev.fileError = false) ↔
      ¬ (file.read maxDataSize offset).1 < 0 := by
  rw [(read_spec h.documented h.opened h.flags maxDataSize offset).1, List.forall_mem_map]
  simp [TftpEvent.fileError]

theorem map_file_fits (calls : List FsCall) :
    ∀ ev ∈ calls.map TftpEvent.file, ev.fits = true :=
  List.forall_mem_map.mpr fun _ _ => rfl

/-- A round that transmits: the length is right iff the read did not fail. -/
theorem round_fits_iff {file : CFile} (h : Readable file) (offset : Int) (response : List UInt8) :
    (∀ ev ∈ (file.readCalls maxDataSize offset).map TftpEvent.file ++
        [TftpEvent.transmit response (sizeT (sizeT (file.read maxDataSize offset).1 + 4))],
      ev.fits = true) ↔
    ∀ ev ∈ (file.readCalls maxDataSize offset).map TftpEvent.file ++
        [TftpEvent.transmit response (sizeT (sizeT (file.read maxDataSize offset).1 + 4))],
      ev.fileError = false := by
  obtain ⟨-, hge, hle⟩ := read_spec h.documented h.opened h.flags maxDataSize offset
  have hfits := map_file_fits (file.readCalls maxDataSize offset)
  rw [List.forall_mem_append, List.forall_mem_append, readCalls_clean_iff h offset]
  by_cases hneg : (file.read maxDataSize offset).1 < 0
  · have hbad := (sizeT_of_neg hge hneg).2
    refine iff_of_false (fun hall => hbad ?_) (fun hall => hall.1 hneg)
    exact of_decide_eq_true (hall.2 _ (List.mem_singleton_self _))
  · have hgood := sizeT_of_le hneg hle
    refine iff_of_true ⟨hfits, ?_⟩ ⟨hneg, ?_⟩
    · exact List.forall_mem_singleton.mpr (decide_eq_true hgood)
    · exact List.forall_mem_singleton.mpr rfl

/-- **The lengths of the packets are right iff no read failed**, by induction on the rounds. -/
theorem sendBlocksEvents_fits_iff {file : Nat → CFile} (h : ∀ i, Readable (file i))
    (fileSize : Int) (fuel : Nat) : ∀ (i : Nat) (b : UInt16) (offset : Int) (polls : List Poll),
      (∀ ev ∈ (sendBlocksEvents file fileSize fuel i b offset polls).1, ev.fits = true) ↔
        ∀ ev ∈ (sendBlocksEvents file fileSize fuel i b offset polls).1, ev.fileError = false := by
  induction fuel with
  | zero => intro i b offset polls; simp [sendBlocksEvents]
  | succ fuel ih =>
    intro i b offset polls
    rw [sendBlocksEvents]
    split
    · simp only
      split
      · -- nothing was read, so the read did not fail
        rename_i hzero
        obtain ⟨-, hge, -⟩ :=
          read_spec (h i).documented (h i).opened (h i).flags maxDataSize offset
        refine iff_of_true (map_file_fits _) ((readCalls_clean_iff (h i) offset).mpr fun hneg => ?_)
        exact (sizeT_of_neg hge hneg).1 hzero
      · split
        · exact round_fits_iff (h i) offset _
        · split
          · exact round_fits_iff (h i) offset _
          · exact (List.forall_mem_append.trans
              (and_congr (round_fits_iff (h i) offset _) (ih ..))).trans
              List.forall_mem_append.symm
    · simp

/-! ## Aborting -/

/-- **A failed `fs_stat` is sent as an empty file.** -/
theorem transferEvents_stat_failed {file : CFile} (h : file.getFileSizeCall.failed = true)
    (fs : Nat → Fs) (polls : List Poll) :
    (transferEvents file fs polls).1 =
      [.file file.getFileSizeCall, .transmit (dataHeader 1) 4] := by
  have hsize : offT (0 : Nat) = 0 := by decide
  unfold transferEvents
  simp only [getFileSizeCall_failed h, hsize]
  rw [if_neg (by decide), sendBlocksEvents, if_neg (by decide)]
  rfl

/-- The events of a transfer: the call of `fs_stat`, the loop, and perhaps an empty packet. -/
theorem transferEvents_cases {file : CFile} {fs : Nat → Fs} {polls : List Poll}
    {r : List TftpEvent × Bool} (h : transferEvents file fs polls = r) :
    ∃ events fileSize, r.1 = .file file.getFileSizeCall :: events ∧
      (events = [] ∨
        events = (sendBlocksEvents (fun i => { file with fs := fs i }) fileSize
          (polls.length + 1) 0 1 0 polls).1 ∨
        ∃ blockNumber, events = (sendBlocksEvents (fun i => { file with fs := fs i }) fileSize
          (polls.length + 1) 0 1 0 polls).1 ++ [.transmit (dataHeader blockNumber) 4]) := by
  rw [transferEvents] at h
  generalize offT file.getFileSize = fileSize at h
  split at h
  · subst h
    exact ⟨_, fileSize, rfl, Or.inl rfl⟩
  · refine ⟨r.1.tail, fileSize, ?_⟩
    split at h
    · rename_i heq
      subst h
      exact ⟨rfl, Or.inr (Or.inl (congrArg Prod.fst heq).symm)⟩
    · rename_i heq
      subst h
      exact ⟨rfl, Or.inr (Or.inl (congrArg Prod.fst heq).symm)⟩
    · rename_i heq
      split at h
      · subst h
        exact ⟨rfl, Or.inr (Or.inr ⟨_, congrArg (· ++ _) (congrArg Prod.fst heq).symm⟩)⟩
      · subst h
        exact ⟨rfl, Or.inr (Or.inl (congrArg Prod.fst heq).symm)⟩

theorem transferEvents_fits_iff {file : CFile} {fs : Nat → Fs} (polls : List Poll)
    (hrounds : ∀ i, Readable { file with fs := fs i })
    (hstat : file.getFileSizeCall.failed = false) :
    (∀ ev ∈ (transferEvents file fs polls).1, ev.fits = true) ↔
      ∀ ev ∈ (transferEvents file fs polls).1, ev.fileError = false := by
  generalize hr : transferEvents file fs polls = r
  obtain ⟨events, fileSize, heq, hevents⟩ := transferEvents_cases hr
  have hloop := sendBlocksEvents_fits_iff hrounds fileSize (polls.length + 1) 0 1 0 polls
  rw [heq, List.forall_mem_cons, List.forall_mem_cons]
  refine and_congr (iff_of_true rfl hstat) ?_
  rcases hevents with rfl | rfl | ⟨blockNumber, rfl⟩
  · exact iff_of_true (fun ev h => absurd h List.not_mem_nil) fun ev h => absurd h List.not_mem_nil
  · exact hloop
  · rw [List.forall_mem_append, List.forall_mem_append]
    refine and_congr hloop (iff_of_true ?_ ?_)
    · exact List.forall_mem_singleton.mpr rfl
    · exact List.forall_mem_singleton.mpr rfl

theorem transferEvents_aborts_iff {file : CFile} {fs : Nat → Fs} (polls : List Poll)
    (hrounds : ∀ i, Readable { file with fs := fs i }) :
    AbortsOnFileError (transferEvents file fs polls).1 (transferEvents file fs polls).2 ↔
      ∀ ev ∈ (transferEvents file fs polls).1, ev.fileError = false := by
  cases hstat : file.getFileSizeCall.failed with
  | true =>
    have hevents := transferEvents_stat_failed hstat fs polls
    constructor
    · intro habort
      have hlast := (habort.aborts [] _ _ hevents hstat).1
      exact absurd (List.mem_singleton_self _) (hlast _ _)
    · intro hclean
      rw [hevents] at hclean
      have hhead : file.getFileSizeCall.failed = false := hclean _ (List.mem_cons_self ..)
      exact absurd (hstat.symm.trans hhead) (by simp)
  | false =>
    have hfits := transferEvents_fits_iff polls hrounds hstat
    refine ⟨fun habort => hfits.mp habort.fits, fun hclean => ⟨?_, hfits.mpr hclean⟩⟩
    intro pre ev post hevents herror
    have hnone := hclean ev (hevents ▸ List.mem_append_right _ (List.mem_cons_self ..))
    exact absurd (herror.symm.trans hnone) (by simp)

/-- **When a request aborts on a file error**: iff there is none. As soon as `fs_stat`, `fs_seek`
or `fs_read` reports one, a packet of a wrong length, or one that ends an empty file, is handed
over after it. -/
theorem aborts_iff {fs : List UInt8 → Fs × (Nat → Fs)}
    (hd : ∀ name i, ((fs name).2 i).Documented) (packet : List UInt8) (polls : List Poll) :
    AbortsOnFileError (handleReadRequestEvents fs packet polls).1
        (handleReadRequestEvents fs packet polls).2 ↔
      ∀ ev ∈ (handleReadRequestEvents fs packet polls).1, ev.fileError = false := by
  have hnothing : AbortsOnFileError [] true ↔ ∀ ev ∈ ([] : List TftpEvent),
      ev.fileError = false := by
    refine iff_of_true ⟨fun pre ev post h => ?_, fun ev h => ?_⟩ fun ev h => ?_
    · exact absurd h (by simp)
    · exact absurd h List.not_mem_nil
    · exact absurd h List.not_mem_nil
  have hflags : FS_O_READ &&& FS_O_READ ≠ 0 := by decide
  unfold handleReadRequestEvents
  simp only
  split
  · exact hnothing
  · split
    · exact hnothing
    · split
      · exact hnothing
      · rename_i hopen
        exact transferEvents_aborts_iff polls fun i => ⟨hopen, hflags, hd _ i⟩

/-- A request that is served. -/
theorem handleReadRequestEvents_served {fs : List UInt8 → Fs × (Nat → Fs)} {name tail : List UInt8}
    (hname : (0 : UInt8) ∉ name) (htree : name.take 4 ≠ text "tree")
    (hbuf : (readRequest name tail).length = rwRequestPacketSize)
    (hopen : ¬ (fs name).1.fs_open < 0) (polls : List Poll) :
    handleReadRequestEvents fs (readRequest name tail) polls =
      transferEvents (CFile.new (fs name).1 FS_O_READ) (fs name).2 polls := by
  obtain ⟨hfilename, hmode⟩ := readRequest_parsed hname hbuf
  unfold handleReadRequestEvents
  simp only [hfilename, hmode]
  rw [if_neg (fun h => htree h.1), if_neg (by decide)]
  exact if_neg hopen

/-- An empty file that opens, and whose `fs_stat` fails with `-EIO`. -/
def unstatted : Fs := { Fs.serving [] with fs_stat := .error (-5) }

theorem unstatted_documented : unstatted.Documented where
  stat_error err h := by
    cases h
    decide
  read_ge pos len := by
    unfold unstatted Fs.serving
    simp
  read_le pos len := by
    unfold unstatted Fs.serving
    simp

/-- The request of a file in octet mode. -/
def requestA : List UInt8 := readRequest (text "a") (List.replicate 502 0)

theorem aborts_unstatted :
    AbortsOnFileError
        (handleReadRequestEvents (fun _ => (unstatted, fun _ => unstatted)) requestA []).1
        (handleReadRequestEvents (fun _ => (unstatted, fun _ => unstatted)) requestA []).2 ↔
      ∀ ev ∈ (handleReadRequestEvents (fun _ => (unstatted, fun _ => unstatted)) requestA []).1,
        ev.fileError = false :=
  aborts_iff (fun _ _ => unstatted_documented) requestA []

/-- **An empty file is sent for one whose `fs_stat` failed.** -/
theorem aborts_fails :
    ¬ ∀ fs : List UInt8 → Fs × (Nat → Fs), (∀ name i, ((fs name).2 i).Documented) →
      ∀ (packet : List UInt8) (polls : List Poll),
        AbortsOnFileError (handleReadRequestEvents fs packet polls).1
          (handleReadRequestEvents fs packet polls).2 := by
  intro h
  have habort := h (fun _ => (unstatted, fun _ => unstatted)) (fun _ _ => unstatted_documented)
    requestA []
  rw [requestA, handleReadRequestEvents_served (by decide) (by decide) (by decide +kernel)
    (by decide)] at habort
  have hfailed : (CFile.new unstatted FS_O_READ).getFileSizeCall.failed = true := rfl
  have hevents := transferEvents_stat_failed hfailed (fun _ => unstatted) []
  exact (habort.aborts [] _ _ hevents rfl).1 _ _ (List.mem_singleton_self _)

end Backplane.Net
