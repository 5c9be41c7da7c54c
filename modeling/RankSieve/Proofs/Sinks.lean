import RankSieve.Sink

/-!
# `RankSieve.Proofs.Sinks` — what a sink holds

A sink without a limit takes everything. A sink that takes a limited number of octets holds the front of all
that was written to it, and this is all there is to know of it: `Sink.limited` gives such a sink by what was
written, fitting or not, and writing more to it comes down to writing more to an unlimited one. Once an octet
was refused there is no room left, so nothing that is written later, the same octets again included, gets in.
-/

namespace RankSieve

namespace Sink

theorem write_nil (s : Sink) : (s.write []).1 = s := by
  unfold write
  cases hroom : s.room with
  | none => simp [← hroom]
  | some n => simp [← hroom]

/-- A sink without a limit takes everything. -/
theorem write_of_unbounded {sink : Sink} (h : sink.room = none) (bs : Octets) :
    sink.write bs = (⟨sink.held ++ bs, none⟩, true) := by
  unfold Sink.write
  rw [h]

/-! ## Limits -/

/-- A sink that takes so many octets in all, of which some are written. -/
def limited (limit : Nat) (held : Octets) : Sink := ⟨held.take limit, some (limit - held.length)⟩

/-- **Written to a limited sink**, octets fit if all that was written and they do. -/
theorem write_limited {limit : Nat} {held : Octets} (h : held.length ≤ limit) (bs : Octets) :
    (Sink.limited limit held).write bs =
      (Sink.limited limit (held ++ bs), decide ((held ++ bs).length ≤ limit)) := by
  have hroom : limit - held.length - bs.length = limit - (held ++ bs).length := by
    rw [List.length_append, Nat.sub_sub]
  have hfits : decide (bs.length ≤ limit - held.length) = decide ((held ++ bs).length ≤ limit) := by
    rw [List.length_append, decide_eq_decide]
    omega
  show (Sink.mk (held.take limit ++ bs.take (limit - held.length)) (some (limit - held.length - bs.length)),
    decide (bs.length ≤ limit - held.length)) = _
  rw [hroom, hfits, ← List.take_append]
  rfl

/-- A sink that has no room left stays as it is, whatever more is written. -/
theorem limited_append_of_full {limit : Nat} {held : Octets} (h : limit ≤ held.length) (bs : Octets) :
    Sink.limited limit (held ++ bs) = Sink.limited limit held := by
  have hroom : limit - (held ++ bs).length = limit - held.length := by
    rw [List.length_append]
    omega
  unfold limited
  rw [List.take_append_of_le_length h, hroom]

theorem write_limited_of_full {limit : Nat} {held : Octets} (h : limit ≤ held.length) (bs : Octets) :
    ((Sink.limited limit held).write bs).1 = Sink.limited limit held := by
  show Sink.mk (held.take limit ++ bs.take (limit - held.length)) (some (limit - held.length - bs.length)) = _
  rw [Nat.sub_eq_zero_of_le h, List.take_zero, List.append_nil, Nat.zero_sub]
  unfold limited
  rw [Nat.sub_eq_zero_of_le h]

/-- A limit in all is room behind what a sink holds already. -/
theorem limited_room (held bs : Octets) (room : Nat) :
    Sink.limited (held.length + room) (held ++ bs) = ⟨held ++ bs.take room, some (room - bs.length)⟩ := by
  unfold limited
  rw [List.take_length_add_append, List.length_append, Nat.add_sub_add_left]

theorem limited_room_self (held : Octets) (room : Nat) :
    Sink.limited (held.length + room) held = ⟨held, some room⟩ := by
  have h := limited_room held [] room
  rwa [List.append_nil, List.take_nil, List.append_nil] at h

end Sink

end RankSieve
