import Backplane.Os.FlightLog

/-!
# The lines of the flight log

When `Write` appends the line it was asked for, and when it and the two log functions of the phase
controller read their buffers only.

* `stored_eq_line_iff`: what the three writes of a call have to store.
* `exact_writeLen_iff`: one call, for the timestamp it writes and the one that is wanted.
* `flight_log_line_iff`: all calls that log a line.
-/

namespace Backplane.Os

open Backplane.Utils

variable (log : CFlightLog) (env : LogEnv)

/-- A line has no zero byte that its message has not. -/
theorem zero_not_mem_line (timestamp : Int64) {message : List UInt8} (h : 0 ∉ message) :
    0 ∉ line timestamp message := by
  intro hmem
  rcases List.mem_append.mp hmem with hmem | hmem
  · rcases List.mem_append.mp hmem with hmem | hmem
    · exact zero_not_mem_timestampText timestamp hmem
    · exact h hmem
  · exact absurd hmem (by decide)

/-- Parts of three strings make the whole of another three that are as long only if they are no
proper parts. -/
theorem full_of_append_eq {d m n d' : List UInt8} {a b c : Nat} (hlen : d.length = d'.length)
    (h : d.take a ++ m.take b ++ n.take c = d' ++ m ++ n) :
    d = d' ∧ d.length ≤ a ∧ m.length ≤ b ∧ n.length ≤ c := by
  have hlength := congrArg List.length h
  simp only [List.length_append, List.length_take] at hlength
  have ha : d.length ≤ a := by omega
  rw [List.take_of_length_le ha, List.append_assoc, List.append_assoc] at h
  exact ⟨(List.append_inj h hlen).1, ha, by omega, by omega⟩

/-- **What three writes store**, of which the first reads in bounds, is the line that is wanted iff
it is that of the timestamp and all of it is stored. -/
theorem stored_eq_line_iff {timestamp wanted : Int64} (h : FitsWithoutZero timestamp)
    (behind : Nat → UInt8) (message : List UInt8) (a b c : Nat) :
    ((writeTimestamp timestamp).data behind).take a ++ message.take b ++ (text "\n").take c =
        line wanted message ↔
      timestamp = wanted ∧ FitsBuffer timestamp ∧ 11 ≤ a ∧ message.length ≤ b ∧ 1 ≤ c := by
  have hdlen := length_data_writeTimestamp h behind
  constructor
  · intro hline
    unfold line at hline
    have hle := (fitsWithoutZero_iff timestamp).mp h
    have hwanted := length_timestampText wanted
    -- a shorter part of the timestamp leaves too few bytes
    have h11 : 11 ≤ a := by
      have hlength := congrArg List.length hline
      simp only [List.length_append, List.length_take, hdlen] at hlength
      omega
    obtain rfl : timestamp = wanted := by
      apply timestamp_eq_of_take h
      have htake := congrArg (List.take 11) hline
      rw [List.append_assoc, List.append_assoc, List.take_append_of_le_length,
        List.take_append_of_le_length (by omega), List.take_take, Nat.min_eq_left h11,
        take_data_writeTimestamp h] at htake
      · exact htake
      · rw [List.length_take, hdlen, length_timestampText]
        omega
    obtain ⟨hsame, -, hball, hcall⟩ := full_of_append_eq hdlen hline
    exact ⟨rfl, (data_writeTimestamp_iff h behind).mp hsame, h11, hball, hcall⟩
  · rintro ⟨rfl, hbuffer, h11, hball, hcall⟩
    have hshort := (fitsBuffer_iff timestamp).mp hbuffer
    rw [(data_writeTimestamp_iff h behind).mpr hbuffer,
      List.take_of_length_le (Nat.le_trans (Nat.le_of_lt_succ hshort) h11),
      List.take_of_length_le hball, List.take_of_length_le (show (text "\n").length ≤ c from hcall)]
    rfl

/-- **One call**: `timestamp` is what it writes, `wanted` what it should. -/
theorem exact_writeLen_iff (timestamp wanted : Int64) {msg : List UInt8} {str_len : Nat}
    (hlen : str_len ≤ msg.length) :
    (log.writeLen timestamp msg str_len env).Exact log wanted (msg.take str_len) ↔
      FitsWithoutZero timestamp ∧
        (env.Succeeds → timestamp = wanted ∧ FitsBuffer timestamp ∧ env.StoresAll str_len) := by
  have hreads := inBounds_writeLen_iff log env timestamp msg str_len
  have hret := writeLen_ret_eq_zero_iff log env timestamp msg str_len
  have hdata : FsWriteCall.data env.behind { buffer := msg, size := str_len } =
      msg.take str_len := by
    unfold FsWriteCall.data
    rw [Nat.sub_eq_zero_of_le hlen, List.range_zero, List.map_nil, List.append_nil]
  have htaken : (msg.take str_len).length = str_len := by
    rw [List.length_take, Nat.min_eq_left hlen]
  constructor
  · intro h
    have hfits := (hreads.mp h.inBounds).1
    refine ⟨hfits, fun hok => ?_⟩
    have hcontent := h.appended (hret.mpr hok)
    obtain ⟨a, b, c, ha, hb, hc⟩ := hok
    rw [(writeLen_of_ok log env timestamp msg str_len ha hb hc).2, hdata] at hcontent
    obtain ⟨hsame, hbuffer, h11, hball, hcall⟩ :=
      (stored_eq_line_iff hfits env.behind _ a b c).mp (List.append_cancel_left hcontent)
    exact ⟨hsame, hbuffer, a, b, c, ha, hb, hc, h11, htaken ▸ hball, hcall⟩
  · rintro ⟨hfits, hcond⟩
    have happended : (log.writeLen timestamp msg str_len env).ret = 0 →
        (log.writeLen timestamp msg str_len env).log.file.content =
          log.file.content ++ line wanted (msg.take str_len) := by
      intro hzero
      obtain ⟨hsame, hbuffer, a, b, c, ha, hb, hc, h11, hball, hcall⟩ := hcond (hret.mp hzero)
      have hline := (stored_eq_line_iff hfits env.behind (msg.take str_len) a b c).mpr
        ⟨hsame, hbuffer, h11, htaken.symm ▸ hball, hcall⟩
      rw [(writeLen_of_ok log env timestamp msg str_len ha hb hc).2, hdata, hline]
    refine ⟨happended, fun hzero hmsg => ?_, hreads.mpr ⟨hfits, fun _ => hlen⟩⟩
    rw [happended hzero, List.drop_left]
    exact zero_not_mem_line wanted hmsg

/-- The event's line, as it is formatted into 64 bytes. -/
theorem inBounds_writeNow_iff (printed : List UInt8) :
    (∀ c ∈ (log.writeNow (snprintf eventBufSize printed).1 (sizeT (snprintf eventBufSize printed).2)
        env).calls, c.InBounds) ↔
      FitsWithoutZero env.k_uptime_get ∧
        ((∃ a, env.timestamp = .ok a) → printed.length ≤ eventBufSize) := by
  unfold CFlightLog.writeNow
  rw [inBounds_writeLen_iff, length_snprintf (by decide), sizeT_snprintf_le_iff _ (by decide)]

theorem length_padRight (width : Nat) (s : List UInt8) :
    (padRight width s).length = max width s.length := by
  unfold padRight
  rw [List.length_append, List.length_replicate]
  omega

/-- **The flight log**: `Write` appends the line that it is asked for, and it and the functions that
log an event read in bounds, iff the timestamps are short enough, the writes are stored whole, the
names fit, and the timestamp given to the overload that drops it is the uptime. -/
theorem flight_log_line_iff (timestamp : Int64) {msg : List UInt8} {str_len : Nat}
    (hlen : str_len ≤ msg.length) (event source : List UInt8) (currentState : Bool) :
    ((log.writeLen timestamp msg str_len env).Exact log timestamp (msg.take str_len) ↔
      FitsWithoutZero timestamp ∧
        (env.Succeeds → FitsBuffer timestamp ∧ env.StoresAll str_len)) ∧
    ((log.write timestamp msg env).Exact log timestamp (cstring msg) ↔
      FitsWithoutZero env.k_uptime_get ∧
        (env.Succeeds → env.k_uptime_get = timestamp ∧ FitsBuffer env.k_uptime_get ∧
          env.StoresAll (cstring msg).length)) ∧
    ((∀ c ∈ (logSourceEvent log event source env).calls, c.InBounds) ↔
      FitsWithoutZero env.k_uptime_get ∧
        ((∃ a, env.timestamp = .ok a) → max 10 event.length + 6 + source.length ≤ 64)) ∧
    ((∀ c ∈ (logEventConfirmed log event currentState env).calls, c.InBounds) ↔
      FitsWithoutZero env.k_uptime_get ∧
        ((∃ a, env.timestamp = .ok a) →
          max 10 event.length + 10 + (if currentState then 38 else 0) ≤ 64)) := by
  refine ⟨?_, ?_, ?_, ?_⟩
  · rw [exact_writeLen_iff log env timestamp timestamp hlen]
    simp only [true_and]
  · have hprefix : cstring msg = msg.take (cstring msg).length :=
      (List.prefix_iff_eq_take.mp (List.takeWhile_prefix _))
    have hle : (cstring msg).length ≤ msg.length := (List.takeWhile_prefix _).length_le
    have hwrite := exact_writeLen_iff log env env.k_uptime_get timestamp hle
    rw [← hprefix] at hwrite
    exact hwrite
  · unfold logSourceEvent
    simp only
    rw [inBounds_writeNow_iff, List.length_append, List.length_append, length_padRight]
    rfl
  · unfold logEventConfirmed
    simp only
    rw [inBounds_writeNow_iff, List.length_append, List.length_append, length_padRight]
    cases currentState <;> rfl

/-- The clock at 7 ms, and a file system that stores everything. -/
def envAtSeven : LogEnv :=
  { k_uptime_get := 7, behind := fun _ => 0, timestamp := .ok 100, message := .ok 100
    newline := .ok 100 }

/-- A line that is logged as it should be. -/
theorem flight_log_line_boost :
    ((CFlightLog.open []).writeLen 7 (text "Boost") 5 envAtSeven).Exact (CFlightLog.open []) 7
      ((text "Boost").take 5) :=
  (flight_log_line_iff (CFlightLog.open []) envAtSeven 7 (by decide) [] [] false).1.mpr
    ⟨by unfold FitsWithoutZero; decide, fun _ => ⟨by unfold FitsBuffer; decide, 100, 100, 100, rfl,
      rfl, rfl, by decide, by decide, by decide⟩⟩

/-- `Write(5, "Boost")` at 7 ms logs 7, and a timestamp of eleven characters is read past the end of
its buffer. -/
theorem not_flight_log_line :
    ¬ ((CFlightLog.open []).write 5 (text "Boost" ++ [0]) envAtSeven).Exact (CFlightLog.open []) 5
      (cstring (text "Boost" ++ [0])) ∧
    ¬ ((CFlightLog.open []).writeLen 10000000000 (text "Boost") 5 envAtSeven).Exact
      (CFlightLog.open []) 10000000000 ((text "Boost").take 5) := by
  constructor
  · intro h
    exact absurd (h.appended (by decide)) (by decide)
  · intro h
    have hbounds := h.inBounds (writeTimestamp 10000000000) List.mem_cons_self
    unfold FsWriteCall.InBounds at hbounds
    exact absurd hbounds (by decide)

end Backplane.Os
