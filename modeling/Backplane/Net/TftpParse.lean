import Backplane.Net.Tftp

/-!
# Parsing a read request

The part of `handleReadRequest` (`lib/f_core/net/application/c_tftp_server_tenant.cpp`) that reads
the request, with every read checked against the end of the packet. A pointer into the packet is
what stands from there to its end; a function that reads past the end gives `none`.

Results:
* `parse_eq`: what is read of a packet, and when it stays inside.
* `handleReadRequest_of_rejected`, `handleReadRequest_of_accepted`: the server that reads without
  these checks (`Net.handleReadRequest`) goes the same way.
* `parsesSafely_iff`: which datagrams are parsed as they should be. `maxFilenameLen` adds the four
  bytes that it means to subtract, and the received length is not looked at.
-/

namespace Backplane.Net

open Backplane.Os
open Backplane.Utils

/-! ## Strings in the packet -/

/-- `strnlen` -/
def strnlen : List UInt8 → Nat → Option Nat
  | _, 0 => some 0
  | [], _ + 1 => none
  | c :: s, n + 1 => if c = 0 then some 0 else (strnlen s n).map (· + 1)

/-- `strcmp(s, literal) == 0` -/
def strcmpEq : List UInt8 → List UInt8 → Option Bool
  | [], _ => none
  | c :: _, [] => some (c == 0)
  | c :: s, l :: literal => if c = l then strcmpEq s literal else some false

/-- `strncmp(s, literal, n) == 0`, for at most the length of the literal. -/
def strncmpEq : List UInt8 → List UInt8 → Nat → Option Bool
  | _, _, 0 => some true
  | [], _, _ + 1 => none
  | c :: _, [], _ + 1 => some (c == 0)
  | c :: s, l :: literal, n + 1 => if c = l then strncmpEq s literal n else some false

/-- A use as a zero-terminated string. -/
def useString : List UInt8 → Option (List UInt8)
  | [] => none
  | c :: s => if c = 0 then some [] else (useString s).map (c :: ·)

@[simp] theorem cstr_zero (s : List UInt8) : cstr (0 :: s) = [] := rfl

theorem cstr_cons {c : UInt8} (h : c ≠ 0) (s : List UInt8) : cstr (c :: s) = c :: cstr s := by
  unfold cstr
  exact List.takeWhile_cons_of_pos (bne_iff_ne.mpr h)

theorem strnlen_eq {s : List UInt8} {n : Nat} (h : n ≤ s.length) :
    strnlen s n = some (min (cstr s).length n) := by
  induction n generalizing s with
  | zero => rw [strnlen, Nat.min_zero]
  | succ n ih =>
    cases s with
    | nil => exact absurd h (Nat.not_succ_le_zero n)
    | cons c s =>
      rw [strnlen]
      split
      · rename_i hc
        rw [hc, cstr_zero, List.length_nil, Nat.zero_min]
      · rename_i hc
        rw [ih (Nat.le_of_succ_le_succ h), cstr_cons hc, List.length_cons, Option.map_some,
          Nat.succ_min_succ]

theorem strncmpEq_eq (s literal : List UInt8) (h : literal.length ≤ s.length) :
    strncmpEq s literal literal.length = some (decide (s.take literal.length = literal)) := by
  induction literal generalizing s with
  | nil => simp [strncmpEq]
  | cons l literal ih =>
    cases s with
    | nil => exact absurd h (Nat.not_succ_le_zero _)
    | cons c s =>
      rw [List.length_cons, strncmpEq, List.take_succ_cons]
      split
      · rename_i hc
        rw [ih _ (Nat.le_of_succ_le_succ h), hc]
        simp
      · rename_i hc
        simp [hc]

/-- A string that ends in the packet is compared in it. -/
theorem strcmpEq_of_mem {s literal : List UInt8} (h : 0 ∈ s) (hliteral : 0 ∉ literal) :
    strcmpEq s literal = some (decide (literal = cstr s)) := by
  induction literal generalizing s with
  | nil =>
    cases s with
    | nil => exact absurd h List.not_mem_nil
    | cons c s =>
      rw [strcmpEq]
      by_cases hc : c = 0
      · simp [hc]
      · simp [hc, cstr_cons hc]
  | cons l literal ih =>
    obtain ⟨hl, hrest⟩ := not_or.mp (mt List.mem_cons.mpr hliteral)
    cases s with
    | nil => exact absurd h List.not_mem_nil
    | cons c s =>
      rw [strcmpEq]
      split
      · rename_i hc
        have hne : c ≠ 0 := fun hzero => hl (hzero.symm.trans hc)
        have hmem : 0 ∈ s := (List.mem_cons.mp h).resolve_left hne.symm
        rw [ih hmem hrest, cstr_cons hne, hc]
        simp
      · rename_i hc
        by_cases hzero : c = 0
        · simp [hzero]
        · rw [cstr_cons hzero]
          simp [Ne.symm hc]

/-- One that does not is equal to no literal. -/
theorem strcmpEq_of_not_mem {s : List UInt8} (h : 0 ∉ s) (literal : List UInt8) :
    strcmpEq s literal ≠ some true := by
  induction literal generalizing s with
  | nil =>
    cases s with
    | nil => exact fun heq => by cases heq
    | cons c s =>
      rw [strcmpEq]
      have hc : c ≠ 0 := fun hzero => h (hzero ▸ List.mem_cons_self)
      simp [hc]
  | cons l literal ih =>
    cases s with
    | nil => exact fun heq => by cases heq
    | cons c s =>
      rw [strcmpEq]
      split
      · exact ih fun hmem => h (List.mem_cons_of_mem c hmem)
      · exact fun heq => by cases heq

theorem useString_eq (s : List UInt8) : useString s = if 0 ∈ s then some (cstr s) else none := by
  induction s with
  | nil => rfl
  | cons c s ih =>
    rw [useString]
    split
    · rename_i hc
      rw [hc, if_pos List.mem_cons_self, cstr_zero]
    · rename_i hc
      rw [ih, cstr_cons hc]
      by_cases hmem : 0 ∈ s
      · rw [if_pos hmem, if_pos (List.mem_cons_of_mem c hmem), Option.map_some]
      · have hnot : (0 : UInt8) ∉ c :: s :=
          fun hin => hmem ((List.mem_cons.mp hin).resolve_left (Ne.symm hc))
        rw [if_neg hmem, if_neg hnot, Option.map_none]

/-! ## The request -/

/-- What comes of a request: it is turned down, or its file is opened. -/
inductive Request
  | rejected
  | accepted (filename : List UInt8)
  deriving DecidableEq

/-- The loop over `tftpModeStrings`. -/
def compareModes (modeStr : List UInt8) : List (List UInt8 × TftpMode) → Option TftpMode
  | [] => some .undefinedTftpMode
  | (literal, mode) :: modes => do
    if ← strcmpEq modeStr literal then return mode
    else compareModes modeStr modes

/-- `handleReadRequest` up to the file it opens. -/
def parseReadRequest (packet : List UInt8) : Option Request := do
  let filename := packet.drop 2
  let filenameLen ← strnlen filename maxFilenameLen
  let modeStr := packet.drop (2 + filenameLen + 1)
  -- Handle a special "tree" request.
  if (← strncmpEq filename (text "tree") 4) ∧ generateTree < 0 then return .rejected
  let mode ← compareModes modeStr tftpModeStrings
  if mode ≠ .octet then
    -- the log prints it
    let _ ← useString modeStr
    return .rejected
  return .accepted (← useString filename)

/-- Where the mode is looked for: behind the filename, or its first `maxFilenameLen` bytes. -/
def modeIndex (packet : List UInt8) : Nat :=
  2 + min (cstr (packet.drop 2)).length maxFilenameLen + 1

/-- A zero behind the filename ends it, too. -/
theorem mem_filename_of_mem_mode {packet : List UInt8} (h : 0 ∈ packet.drop (modeIndex packet)) :
    0 ∈ packet.drop 2 := by
  have hsplit : packet.drop (modeIndex packet) =
      (packet.drop 2).drop (modeIndex packet - 2) := by
    rw [List.drop_drop]
    congr 1
    unfold modeIndex
    omega
  exact List.mem_of_mem_drop (hsplit ▸ h)

theorem compareModes_of_mem {s : List UInt8} (h : 0 ∈ s) {modes : List (List UInt8 × TftpMode)}
    (hmodes : ∀ m ∈ modes, 0 ∉ m.1) : compareModes s modes =
      some (((modes.find? fun m => m.1 == cstr s).map Prod.snd).getD .undefinedTftpMode) := by
  induction modes with
  | nil => rfl
  | cons m modes ih =>
    have hm := hmodes m List.mem_cons_self
    have hrest := ih fun m' hm' => hmodes m' (List.mem_cons_of_mem m hm')
    rw [compareModes, strcmpEq_of_mem h hm]
    by_cases heq : m.1 = cstr s
    · rw [List.find?_cons_of_pos (by simpa using heq)]
      simp [heq]
    · rw [List.find?_cons_of_neg (by simpa using heq), ← hrest]
      simp [heq]

/-- Without its zero, a mode is not found. -/
theorem compareModes_of_not_mem {s : List UInt8} (h : 0 ∉ s)
    (modes : List (List UInt8 × TftpMode)) :
    compareModes s modes = none ∨ compareModes s modes = some .undefinedTftpMode := by
  induction modes with
  | nil => exact .inr rfl
  | cons m modes ih =>
    rw [compareModes]
    cases hcmp : strcmpEq s m.1 with
    | none => exact .inl rfl
    | some equal =>
      cases equal with
      | false => simpa using ih
      | true => exact absurd hcmp (strcmpEq_of_not_mem h m.1)

theorem zero_not_mem_modes : ∀ m ∈ tftpModeStrings, 0 ∉ m.1 := by decide

/-- **What is read of a packet**: the reads stay inside iff the request is for the tree or a zero
stands behind the filename. -/
theorem parse_eq {packet : List UInt8} (h : packet.length = 512) : parseReadRequest packet =
    if (packet.drop 2).take 4 = text "tree" then some .rejected
    else if 0 ∈ packet.drop (modeIndex packet) then
      if tftpMode (cstr (packet.drop (modeIndex packet))) = .octet then
        some (.accepted (cstr (packet.drop 2)))
      else some .rejected
    else none := by
  have hlen : (packet.drop 2).length = 510 := by rw [List.length_drop, h]
  have hname := strnlen_eq (s := packet.drop 2) (n := maxFilenameLen) (by rw [hlen]; decide)
  have htree := strncmpEq_eq (packet.drop 2) (text "tree") (by rw [hlen]; decide)
  have hfour : (text "tree").length = 4 := rfl
  rw [hfour] at htree
  unfold parseReadRequest
  simp only [hname, htree, Option.bind_eq_bind, Option.bind_some]
  rw [show 2 + min (cstr (packet.drop 2)).length maxFilenameLen + 1 = modeIndex packet from rfl]
  by_cases hspecial : (packet.drop 2).take 4 = text "tree"
  · rw [if_pos hspecial, if_pos ⟨by simpa using hspecial, by decide⟩]
    rfl
  · rw [if_neg hspecial, if_neg fun hand => hspecial (by simpa using hand.1)]
    by_cases hzero : 0 ∈ packet.drop (modeIndex packet)
    · have hmode : compareModes (packet.drop (modeIndex packet)) tftpModeStrings =
          some (tftpMode (cstr (packet.drop (modeIndex packet)))) :=
        compareModes_of_mem hzero zero_not_mem_modes
      rw [if_pos hzero, hmode]
      simp only [Option.bind_some, useString_eq, if_pos hzero,
        if_pos (mem_filename_of_mem_mode hzero)]
      by_cases hoctet : tftpMode (cstr (packet.drop (modeIndex packet))) = .octet
      · rw [if_pos hoctet, if_neg (not_not.mpr hoctet)]
        rfl
      · rw [if_neg hoctet, if_pos hoctet]
        rfl
    · rw [if_neg hzero]
      rcases compareModes_of_not_mem hzero tftpModeStrings with hnone | hundefined
      · rw [hnone]
        rfl
      · rw [hundefined]
        simp only [Option.bind_some, useString_eq, if_neg hzero]
        rfl

/-! ## The server -/

/-- The first bytes of a string are those of the memory, as long as they are not zero. -/
theorem take_cstr_eq_iff (s : List UInt8) {literal : List UInt8} (hliteral : 0 ∉ literal) :
    (cstr s).take literal.length = literal ↔ s.take literal.length = literal := by
  induction literal generalizing s with
  | nil => simp
  | cons l literal ih =>
    obtain ⟨hl, hrest⟩ := not_or.mp (mt List.mem_cons.mpr hliteral)
    cases s with
    | nil => simp [cstr]
    | cons c s =>
      by_cases hc : c = 0
      · simp [hc, hl]
      · rw [cstr_cons hc, List.length_cons, List.take_succ_cons, List.take_succ_cons,
          List.cons_eq_cons, List.cons_eq_cons, ih s hrest]

theorem take_cstr_tree (s : List UInt8) :
    (cstr s).take 4 = text "tree" ↔ s.take 4 = text "tree" :=
  have hzero : 0 ∉ text "tree" := by decide
  take_cstr_eq_iff s hzero

/-- **The server turns down** what the parser does. -/
theorem handleReadRequest_of_rejected {packet : List UInt8} (h : packet.length = 512)
    (hparse : parseReadRequest packet = some .rejected) (fs : List UInt8 → Fs)
    (polls : List Poll) : handleReadRequest fs packet polls = ([], true) := by
  have htree := take_cstr_tree (packet.drop 2)
  rw [parse_eq h] at hparse
  unfold handleReadRequest
  simp only
  split
  · rfl
  · rename_i hspecial
    have hnot : ¬ (packet.drop 2).take 4 = text "tree" :=
      fun heq => hspecial ⟨htree.mpr heq, by decide⟩
    rw [if_neg hnot] at hparse
    split at hparse
    · split at hparse
      · cases hparse
      · rename_i hmode
        exact if_pos hmode
    · cases hparse

/-- **The server opens the file** that the parser accepts, with the string it is named by. -/
theorem handleReadRequest_of_accepted {packet filename : List UInt8} (h : packet.length = 512)
    (hparse : parseReadRequest packet = some (.accepted filename)) :
    filename = cstr (packet.drop 2) ∧ (cstr (packet.drop 2)).take 4 ≠ text "tree" ∧
      tftpMode (cstr (packet.drop (modeIndex packet))) = .octet := by
  have htree := take_cstr_tree (packet.drop 2)
  rw [parse_eq h] at hparse
  split at hparse
  · cases hparse
  · rename_i hspecial
    split at hparse
    · split at hparse
      · rename_i hmode
        cases hparse
        exact ⟨rfl, fun heq => hspecial (htree.mp heq), hmode⟩
      · cases hparse
    · cases hparse

/-! ## Datagrams -/

/-- The packet buffer that a datagram was received into. -/
def packetOf (bytes : List UInt8) : List UInt8 := (zeroed rwRequestPacketSize bytes).toList

/-- Filename and mode end in the bytes that were received. -/
def Terminated (bytes : List UInt8) : Prop :=
  0 ∈ bytes.drop 2 ∧ 0 ∈ bytes.drop (2 + (cstr (bytes.drop 2)).length + 1)

/-- **Parsed safely**: all reads are inside the packet, and a request whose strings do not end in it
is turned down. -/
structure ParsesSafely (bytes : List UInt8) : Prop where
  inside : (parseReadRequest (packetOf bytes)).isSome
  rejects : ¬ Terminated bytes → parseReadRequest (packetOf bytes) = some .rejected

/-- The bytes that the mode is looked for in. -/
def modeBytes (bytes : List UInt8) : List UInt8 := bytes.drop (modeIndex bytes)

theorem packetOf_eq {bytes : List UInt8} (h : bytes.length ≤ 512) :
    packetOf bytes = bytes ++ List.replicate (512 - bytes.length) 0 := by
  unfold packetOf
  apply List.ext_getElem?
  intro i
  rw [Vector.getElem?_toList, zeroed_getElem?, List.getElem?_append, List.getElem?_replicate]
  have hsize : rwRequestPacketSize = 512 := rfl
  split
  · split
    · rw [List.getD_eq_getElem?_getD, List.getElem?_eq_getElem (by assumption)]
      rfl
    · rw [if_pos (by omega), List.getD_eq_getElem?_getD,
        List.getElem?_eq_none (by omega), Option.getD_none]
  · rw [if_neg (by omega), if_neg (by omega)]

theorem length_packetOf (bytes : List UInt8) : (packetOf bytes).length = 512 :=
  Vector.length_toList

/-- Zeros behind a string do not change it. -/
theorem cstr_append_zeros (s : List UInt8) (n : Nat) : cstr (s ++ List.replicate n 0) = cstr s := by
  induction s with
  | nil => cases n <;> rfl
  | cons c s ih =>
    rw [List.cons_append]
    by_cases hc : c = 0
    · rw [hc, cstr_zero, cstr_zero]
    · rw [cstr_cons hc, cstr_cons hc, ih]

theorem drop_packetOf {bytes : List UInt8} (h : bytes.length ≤ 512) (i : Nat) :
    (packetOf bytes).drop i = bytes.drop i ++ List.replicate (512 - max i bytes.length) 0 := by
  rw [packetOf_eq h, List.drop_append, List.drop_replicate]
  congr 2
  omega

theorem modeIndex_packetOf {bytes : List UInt8} (h : bytes.length ≤ 512) :
    modeIndex (packetOf bytes) = modeIndex bytes := by
  unfold modeIndex
  rw [drop_packetOf h, cstr_append_zeros]

theorem modeIndex_lt (bytes : List UInt8) : modeIndex bytes < 512 := by
  have hmax : maxFilenameLen = 508 := by decide
  unfold modeIndex
  omega

/-- The mode ends in the packet: in the bytes received, or in the zeros behind them. -/
theorem zero_mem_mode_iff {bytes : List UInt8} (h : bytes.length ≤ 512) :
    0 ∈ (packetOf bytes).drop (modeIndex bytes) ↔ 0 ∈ modeBytes bytes ∨ bytes.length < 512 := by
  have hlt := modeIndex_lt bytes
  rw [drop_packetOf h, List.mem_append, List.mem_replicate]
  constructor
  · rintro (hin | ⟨hzeros, -⟩)
    · exact .inl hin
    · exact .inr (by omega)
  · rintro (hin | hshort)
    · exact .inl hin
    · exact .inr ⟨by omega, rfl⟩

theorem tftpMode_eq_octet_iff (modeStr : List UInt8) :
    tftpMode modeStr = .octet ↔ modeStr = text "octet" := by
  constructor
  · intro h
    unfold tftpMode at h
    cases hfind : tftpModeStrings.find? (fun m => m.1 == modeStr) with
    | none =>
      rw [hfind] at h
      cases h
    | some m =>
      rw [hfind] at h
      have hoctet : ∀ m ∈ tftpModeStrings, m.2 = .octet → m.1 = text "octet" := by decide
      have heq := List.find?_some hfind
      rw [← beq_iff_eq.mp heq]
      exact hoctet m (List.mem_of_find?_eq_some hfind) h
  · rintro rfl
    decide

/-- **Parsing a datagram.** -/
theorem parse_packetOf {bytes : List UInt8} (h : bytes.length ≤ 512) :
    parseReadRequest (packetOf bytes) =
      if (bytes.drop 2).take 4 = text "tree" then some .rejected
      else if 0 ∈ modeBytes bytes ∨ bytes.length < 512 then
        if cstr (modeBytes bytes) = text "octet" then some (.accepted (cstr (bytes.drop 2)))
        else some .rejected
      else none := by
  have htree : ((packetOf bytes).drop 2).take 4 = text "tree" ↔
      (bytes.drop 2).take 4 = text "tree" := by
    rw [drop_packetOf h, ← take_cstr_tree, cstr_append_zeros, take_cstr_tree]
  have hmode : tftpMode (cstr ((packetOf bytes).drop (modeIndex bytes))) = .octet ↔
      cstr (modeBytes bytes) = text "octet" := by
    rw [tftpMode_eq_octet_iff, drop_packetOf h, cstr_append_zeros]
    rfl
  have hname : cstr ((packetOf bytes).drop 2) = cstr (bytes.drop 2) := by
    rw [drop_packetOf h, cstr_append_zeros]
  rw [parse_eq (length_packetOf bytes), modeIndex_packetOf h]
  simp only [htree, hmode, zero_mem_mode_iff h, hname]

theorem cstr_of_not_mem {s : List UInt8} (h : 0 ∉ s) : cstr s = s := by
  induction s with
  | nil => rfl
  | cons c s ih =>
    obtain ⟨hc, hrest⟩ := not_or.mp (mt List.mem_cons.mpr h)
    rw [cstr_cons (Ne.symm hc), ih hrest]

/-- A mode of five bytes or more stands behind the zero of the filename. -/
theorem terminated_iff {bytes : List UInt8} (h : bytes.length ≤ 512)
    (hmode : 5 ≤ (modeBytes bytes).length) : Terminated bytes ↔ 0 ∈ modeBytes bytes := by
  have hindex : modeIndex bytes = 2 + (cstr (bytes.drop 2)).length + 1 := by
    have hmax : maxFilenameLen = 508 := by decide
    unfold modeBytes at hmode
    rw [List.length_drop] at hmode
    unfold modeIndex at hmode ⊢
    omega
  unfold Terminated
  rw [← hindex]
  exact ⟨And.right, fun hin => ⟨mem_filename_of_mem_mode hin, hin⟩⟩

/-- **The datagrams that are parsed safely**: those for the tree, and of the others those whose mode
is not just `octet` without a zero and that have, if they fill the packet, a zero behind the
filename. -/
theorem parsesSafely_iff {bytes : List UInt8} (h : bytes.length ≤ 512) : ParsesSafely bytes ↔
    (bytes.drop 2).take 4 = text "tree" ∨
      (modeBytes bytes ≠ text "octet" ∧ (bytes.length = 512 → 0 ∈ modeBytes bytes)) := by
  have hparse := parse_packetOf h
  by_cases htree : (bytes.drop 2).take 4 = text "tree"
  · rw [if_pos htree] at hparse
    exact ⟨fun _ => .inl htree, fun _ => ⟨by rw [hparse]; rfl, fun _ => hparse⟩⟩
  · rw [if_neg htree] at hparse
    rw [or_iff_right htree]
    constructor
    · intro hsafe
      have hinside := hsafe.inside
      have hend : 0 ∈ modeBytes bytes ∨ bytes.length < 512 := by
        by_contra hnot
        rw [hparse, if_neg hnot] at hinside
        cases hinside
      refine ⟨fun hoctet => ?_, fun hfull => hend.resolve_right (by omega)⟩
      have hopen : ¬ Terminated bytes := by
        rw [terminated_iff h (by rw [hoctet]; decide), hoctet]
        decide
      have hrejected := hsafe.rejects hopen
      rw [hparse, if_pos hend, if_pos (by rw [hoctet]; decide)] at hrejected
      cases hrejected
    · rintro ⟨hoctet, hfull⟩
      have hend : 0 ∈ modeBytes bytes ∨ bytes.length < 512 := by
        rcases Nat.lt_or_eq_of_le h with hlt | heq
        · exact .inr hlt
        · exact .inl (hfull heq)
      rw [if_pos hend] at hparse
      refine ⟨by rw [hparse]; split <;> rfl, fun hopen => ?_⟩
      rw [hparse, if_neg]
      -- the mode would be `octet` and end in a zero that was received
      intro hmode
      have hzero : 0 ∈ modeBytes bytes := by
        by_contra hnot
        exact hoctet ((cstr_of_not_mem hnot).symm.trans hmode)
      have hprefix : (cstr (modeBytes bytes)).length ≤ (modeBytes bytes).length :=
        (List.takeWhile_prefix _).length_le
      rw [hmode] at hprefix
      exact hopen ((terminated_iff h hprefix).mpr hzero)

/-- A request for `f` in mode `octet`. -/
theorem parsesSafely_request :
    ParsesSafely ([0, 1] ++ text "f" ++ [0] ++ text "octet" ++ [0]) :=
  (parsesSafely_iff (by decide)).mpr (.inr ⟨by decide, fun h => absurd h (by decide)⟩)

/-- The same without the zero behind the mode is accepted, and a filename that fills the packet is
read past its end. -/
theorem not_parsesSafely : ¬ ParsesSafely ([0, 1] ++ text "f" ++ [0] ++ text "octet") ∧
    ¬ ParsesSafely ([0, 1] ++ List.replicate 510 0x61) := by
  constructor
  · intro hsafe
    have hopen : ¬ Terminated ([0, 1] ++ text "f" ++ [0] ++ text "octet") := by
      unfold Terminated
      decide
    exact absurd (hsafe.rejects hopen) (by decide +kernel)
  · intro hsafe
    have hinside := hsafe.inside
    rw [parse_packetOf (by decide +kernel), if_neg (by decide +kernel),
      if_neg (by decide +kernel)] at hinside
    cases hinside

end Backplane.Net
