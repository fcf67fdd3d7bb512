import Backplane.Net.UdpSocket

/-!
# The alert tenant

Model of `CUdpAlertTenant` (`include/f_core/net/application/c_udp_alert_tenant.h`,
`lib/f_core/net/application/c_udp_alert_tenant.cpp`) and `NAlerts` (`include/f_core/n_alerts.h`).
An `AlertType` is any 16-bit value, since the code casts a received byte to it.

Results:
* `notify_of_processes`: a valid alert reaches every observer.
* `run_cons`: what `Run` makes of any datagram.
* `heeds_iff`: the datagrams on which the parser does what the packet format asks for.
-/

namespace Backplane.Net

open Backplane.Utils

/-- `NAlerts::AlertType`. -/
abbrev AlertType := UInt16

def BOOST : AlertType := 0x62
def APOGEE : AlertType := 0x61
def NOSEOVER : AlertType := 0x6E
def LANDED : AlertType := 0x6C

/-- `"LAUNCH"`. -/
def MAGIC_BYTE_SIGNATURE : List UInt8 := [0x4C, 0x41, 0x55, 0x4E, 0x43, 0x48]

/-- The enumerators of `AlertType`. -/
def alertTypes : List AlertType := [BOOST, APOGEE, NOSEOVER, LANDED]

def MAGIC_BYTE_SIGNATURE_SIZE : Nat := MAGIC_BYTE_SIGNATURE.length

def ALERT_PACKET_SIZE : Nat := MAGIC_BYTE_SIGNATURE_SIZE + 2

/-- `CUdpAlertTenant`, with what waits at its socket. -/
structure CUdpAlertTenant (CObserver : Type) where
  sock : Inbox := []
  observers : List CObserver := []

variable {CObserver : Type}

/-- `Subscribe`. -/
def CUdpAlertTenant.subscribe (t : CUdpAlertTenant CObserver) (observer : CObserver) :
    CUdpAlertTenant CObserver :=
  { t with observers := t.observers ++ [observer] }

/-- `Run`: the calls of `Notify` it makes, in order. -/
def CUdpAlertTenant.run (t : CUdpAlertTenant CObserver) (fcntl : Fcntl) :
    CUdpAlertTenant CObserver × List (CObserver × AlertType) :=
  let r := t.sock.receiveAsynchronous fcntl ALERT_PACKET_SIZE
  let t := { t with sock := r.1 }
  let buff := (zeroed ALERT_PACKET_SIZE r.2.2).toList
  if r.2.1 > 0 then
    if buff.take MAGIC_BYTE_SIGNATURE_SIZE = MAGIC_BYTE_SIGNATURE then
      let alertType : AlertType := (buff.getD MAGIC_BYTE_SIGNATURE_SIZE 0).toUInt16
      (t, t.observers.map fun observer => (observer, alertType))
    else (t, [])
  else (t, [])

/-- The packet that announces `alertType`: the signature and the type, low byte first. -/
def alertPacket (alertType : AlertType) : List UInt8 :=
  MAGIC_BYTE_SIGNATURE ++ littleEndian alertType

/-- `Run` takes a valid packet of type `alertType` from the socket. -/
def CUdpAlertTenant.processes (t : CUdpAlertTenant CObserver) (fcntl : Fcntl)
    (alertType : AlertType) : Prop :=
  fcntl.ok = true ∧ t.sock.head? = some (alertPacket alertType)

instance (t : CUdpAlertTenant CObserver) (fcntl : Fcntl) (alertType : AlertType) :
    Decidable (t.processes fcntl alertType) :=
  inferInstanceAs (Decidable (_ ∧ _))

/-- The types of the valid packets that `Run` takes: one at most. -/
def CUdpAlertTenant.processed (t : CUdpAlertTenant CObserver) (fcntl : Fcntl) : List AlertType :=
  alertTypes.filter fun alertType => t.processes fcntl alertType

/-- **A valid alert reaches every observer**, in order of subscription. -/
theorem notify_of_processes {t : CUdpAlertTenant CObserver} {fcntl : Fcntl} {alertType : AlertType}
    (h : t.processes fcntl alertType) (hbyte : alertType.toNat < 256) :
    (t.run fcntl).2 = t.observers.map fun observer => (observer, alertType) := by
  obtain ⟨hok, hhead⟩ := h
  obtain ⟨rest, hsock⟩ := List.head?_eq_some_iff.mp hhead
  have hbuff : (zeroed ALERT_PACKET_SIZE (alertPacket alertType)).toList =
      alertPacket alertType := by
    have htake : (zeroed ALERT_PACKET_SIZE (alertPacket alertType)).toList.take
        (alertPacket alertType).length = alertPacket alertType := take_zeroed (Nat.le_refl _)
    rwa [List.take_of_length_le (by rw [Vector.length_toList]; exact Nat.le_refl _)] at htake
  have hreceive : t.sock.receiveAsynchronous fcntl ALERT_PACKET_SIZE =
      (rest, 8, alertPacket alertType) := by
    rw [hsock, receiveAsynchronous_cons _ _ hok]
    rfl
  unfold CUdpAlertTenant.run
  simp only [hreceive, hbuff]
  have hmagic : (alertPacket alertType).take MAGIC_BYTE_SIGNATURE_SIZE = MAGIC_BYTE_SIGNATURE := rfl
  rw [if_pos (by decide), if_pos hmagic]
  have htype : alertType.toUInt8.toUInt16 = alertType := by
    apply UInt16.toNat_inj.mp
    rw [UInt8.toNat_toUInt16, UInt16.toNat_toUInt8, Nat.mod_eq_of_lt hbyte]
  show t.observers.map (fun observer => (observer, alertType.toUInt8.toUInt16)) = _
  rw [htype]

/-! ## Malformed datagrams -/

/-- `datagram` is an alert packet of type `alertType`: its length, its signature and its 16-bit
type field are checked. -/
structure Announces (datagram : List UInt8) (alertType : AlertType) : Prop where
  length : datagram.length = ALERT_PACKET_SIZE
  magic : MAGIC_BYTE_SIGNATURE <+: datagram
  field : word (datagram.getD 7 0) (datagram.getD 6 0) = alertType
  known : alertType ∈ alertTypes

/-- The calls of `Notify` the packet format asks for: all observers for an alert packet, none for
any other datagram. -/
structure Heeds (observers : List CObserver) (datagram : List UInt8)
    (notified : List (CObserver × AlertType)) : Prop where
  announced : ∀ alertType, Announces datagram alertType →
    notified = observers.map fun observer => (observer, alertType)
  ignored : (∀ alertType, ¬ Announces datagram alertType) → notified = []

/-- The alert packets are the four byte strings `alertPacket` makes. -/
theorem announces_iff (datagram : List UInt8) (alertType : AlertType) :
    Announces datagram alertType ↔ alertType ∈ alertTypes ∧ datagram = alertPacket alertType := by
  constructor
  · rintro ⟨hlength, ⟨rest, rfl⟩, rfl, hknown⟩
    refine ⟨hknown, ?_⟩
    have hrest : rest.length = 2 := by
      rw [List.length_append] at hlength
      exact Nat.add_left_cancel hlength
    obtain ⟨lo, hi, rfl⟩ := List.length_eq_two.mp hrest
    show MAGIC_BYTE_SIGNATURE ++ [lo, hi] = MAGIC_BYTE_SIGNATURE ++ littleEndian (word hi lo)
    rw [littleEndian_word]
  · rintro ⟨hknown, rfl⟩
    exact ⟨rfl, ⟨_, rfl⟩, word_bytes alertType, hknown⟩

/-- **`Run` on a datagram**: past the signature, the next byte is the type, or zero if there is
none. -/
theorem run_cons (observers : List CObserver) (datagram : List UInt8) (rest : Inbox) {fcntl : Fcntl}
    (h : fcntl.ok = true) :
    CUdpAlertTenant.run { sock := datagram :: rest, observers := observers } fcntl =
      ({ sock := rest, observers := observers },
        if MAGIC_BYTE_SIGNATURE <+: datagram then
          observers.map fun observer => (observer, (datagram.getD 6 0).toUInt16)
        else []) := by
  have hmagic : (zeroed ALERT_PACKET_SIZE (datagram.take ALERT_PACKET_SIZE)).toList.take
      MAGIC_BYTE_SIGNATURE_SIZE = MAGIC_BYTE_SIGNATURE ↔ MAGIC_BYTE_SIGNATURE <+: datagram := by
    refine (take_zeroed_eq_iff (by decide) (by decide)).trans ?_
    rw [List.prefix_take_iff]
    exact and_iff_left (by decide)
  have htype : (zeroed ALERT_PACKET_SIZE (datagram.take ALERT_PACKET_SIZE)).toList.getD
      MAGIC_BYTE_SIGNATURE_SIZE 0 = datagram.getD 6 0 := by
    rw [List.getD_eq_getElem?_getD, Vector.getElem?_toList, zeroed_getElem?, if_pos (by decide),
      Option.getD_some, List.getD_eq_getElem?_getD, List.getElem?_take_of_lt (by decide),
      List.getD_eq_getElem?_getD]
    rfl
  unfold CUdpAlertTenant.run
  simp only [receiveAsynchronous_cons _ _ h, hmagic, htype]
  by_cases hprefix : MAGIC_BYTE_SIGNATURE <+: datagram
  · obtain ⟨tail, rfl⟩ := hprefix
    have hpos : (((MAGIC_BYTE_SIGNATURE ++ tail).take ALERT_PACKET_SIZE).length : Int) > 0 := by
      rw [List.length_take, List.length_append]
      show ((min 8 (6 + tail.length) : Nat) : Int) > 0
      omega
    rw [if_pos hpos, if_pos ⟨tail, rfl⟩, if_pos ⟨tail, rfl⟩]
  · rw [if_neg hprefix, if_neg hprefix, ite_self]

/-- **Where the parser keeps to the packet format**: not on a datagram that only begins with the
signature, unless nobody listens. -/
theorem heeds_iff (observers : List CObserver) (datagram : List UInt8) (rest : Inbox)
    {fcntl : Fcntl} (h : fcntl.ok = true) :
    Heeds observers datagram
        (CUdpAlertTenant.run { sock := datagram :: rest, observers := observers } fcntl).2 ↔
      observers = [] ∨ ¬ MAGIC_BYTE_SIGNATURE <+: datagram ∨
        ∃ alertType ∈ alertTypes, datagram = alertPacket alertType := by
  rw [run_cons observers datagram rest h]
  constructor
  · intro hheeds
    by_cases hmagic : MAGIC_BYTE_SIGNATURE <+: datagram
    · by_cases halert : ∃ alertType, Announces datagram alertType
      · obtain ⟨alertType, ha⟩ := halert
        exact .inr (.inr ⟨alertType, (announces_iff datagram alertType).mp ha⟩)
      · have hnil := hheeds.ignored fun alertType ha => halert ⟨alertType, ha⟩
        rw [if_pos hmagic] at hnil
        exact .inl (List.map_eq_nil_iff.mp hnil)
    · exact .inr (.inl hmagic)
  · rintro (rfl | hmagic | ⟨alertType, hknown, rfl⟩)
    · rw [List.map_nil, ite_self]
      exact ⟨fun _ _ => rfl, fun _ => rfl⟩
    · rw [if_neg hmagic]
      exact ⟨fun _ ha => absurd ha.magic hmagic, fun _ => rfl⟩
    · have hannounced := (announces_iff _ _).mpr ⟨hknown, rfl⟩
      refine ⟨fun other ho => ?_, fun hnone => absurd hannounced (hnone alertType)⟩
      have hother : other = alertType := ho.field.symm.trans hannounced.field
      rw [if_pos hannounced.magic, hother]
      have hbyte : ((alertPacket alertType).getD 6 0).toUInt16 = alertType := by
        simp only [alertTypes, List.mem_cons, List.not_mem_nil, or_false] at hknown
        rcases hknown with rfl | rfl | rfl | rfl <;> rfl
      rw [hbyte]

theorem heeds_boost_packet :
    Heeds [()] (alertPacket BOOST) (CUdpAlertTenant.run
      { sock := [alertPacket BOOST], observers := [()] } ⟨0, true, 0⟩).2 :=
  (heeds_iff [()] (alertPacket BOOST) [] rfl).mpr (.inr (.inr ⟨BOOST, by decide, rfl⟩))

/-- Seven bytes are enough for an alert: the signature and a `b`. -/
theorem not_heeds_short_packet :
    ¬ ∀ (observers : List Unit) (datagram : List UInt8),
      Heeds observers datagram (CUdpAlertTenant.run
        { sock := [datagram], observers := observers } ⟨0, true, 0⟩).2 := by
  intro h
  have hheeds := h [()] (MAGIC_BYTE_SIGNATURE ++ [0x62])
  have hnil := hheeds.ignored fun _ ha => absurd ha.length (by decide)
  rw [run_cons [()] _ [] rfl, if_pos ⟨_, rfl⟩] at hnil
  exact absurd hnil (List.cons_ne_nil _ _)

end Backplane.Net
