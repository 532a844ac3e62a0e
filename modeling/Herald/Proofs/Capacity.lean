import Mathlib.Order.Bounds.Basic
import Herald.Proofs.Segments

/-! # Segments as they hold characters

Segments have a capacity, and the segments of a message are the fewest that hold it, in the alphabet
that its characters need. What is sent is the message made fit: making it fit again changes nothing,
and takes no segment more.
-/

namespace Herald

/-! ## The fewest segments -/

namespace SegmentSizes

/-- How many characters fit a number of segments. -/
def capacity (sizes : SegmentSizes) : ℕ → ℕ
  | 0 => 0
  | 1 => sizes.first
  | several => several * sizes.further

variable {sizes : SegmentSizes} {length : ℕ}

theorem capacity_of_several {several : ℕ} (more : 2 ≤ several) :
    sizes.capacity several = several * sizes.further := by
  match several, more with
  | _ + 2, _ => rfl

/-- A text of several segments fits a number of them exactly if its last character does. -/
theorem le_capacity_iff (joined : sizes.further ≤ sizes.first) (several : sizes.first < length)
    (count : ℕ) : length ≤ sizes.capacity count ↔ (length - 1) / sizes.further < count := by
  have full : 1 ≤ (length - 1) / sizes.further :=
    (Nat.one_le_div_iff sizes.further_pos).mpr (by omega)
  rcases Nat.lt_or_ge count 2 with few | many
  · have short : sizes.capacity count ≤ sizes.first := by
      match count, few with
      | 0, _ => exact Nat.zero_le _
      | 1, _ => exact le_rfl
    exact iff_of_false (by omega) (by omega)
  · rw [capacity_of_several many, Nat.div_lt_iff_lt_mul sizes.further_pos]
    omega

/-- The segments of a length are the fewest that hold it. -/
theorem count_isLeast (joined : sizes.further ≤ sizes.first) (length : ℕ) :
    IsLeast {count | length ≤ sizes.capacity count} (sizes.count length) := by
  rcases Nat.eq_zero_or_pos length with rfl | some
  · exact ⟨Nat.zero_le _, fun count _ => Nat.zero_le count⟩
  rcases le_or_gt length sizes.first with single | several
  · have one : sizes.count length = 1 := by
      rw [count, if_neg some.ne', if_pos single]
    rw [one]
    refine ⟨single, fun count holds => Nat.one_le_iff_ne_zero.mpr ?_⟩
    rintro rfl
    exact absurd holds (Nat.not_le.mpr some)
  · rw [sizes.count_of_lt several (joined.trans_lt several)]
    exact ⟨(le_capacity_iff joined several _).mpr (Nat.lt_succ_self _),
      fun count holds => (le_capacity_iff joined several count).mp holds⟩

end SegmentSizes

/-! ## Messages -/

namespace Sms

variable {sizes : SmsSizes} {limit : ℤ} {message : String}

theorem segments_of_plain (plain : ∀ c ∈ message.toList, c.toNat ≤ 127) :
    segments sizes message = sizes.plain.count message.length := by
  have narrow : ¬ needsUnicode message.toList = true := by
    intro wide
    obtain ⟨c, member, beyond⟩ := List.any_eq_true.mp wide
    exact absurd (of_decide_eq_true beyond) (Nat.not_lt.mpr (plain c member))
  rw [segments, sizesFor, if_neg narrow]

theorem segments_of_beyond (beyond : ∃ c ∈ message.toList, 127 < c.toNat) :
    segments sizes message = sizes.unicode.count message.length := by
  obtain ⟨c, member, beyond⟩ := beyond
  have wide : needsUnicode message.toList = true :=
    List.any_eq_true.mpr ⟨c, member, decide_eq_true beyond⟩
  rw [segments, sizesFor, if_pos wide]

/-! ### Messages made fit -/

/-- Whether a character survives when a message is made fit. -/
def isKept (c : Char) : Bool := c == '\n' || !isControl c

theorem toList_sanitize (positive : 0 < limit) :
    (sanitize limit message).toList = (message.toList.filter isKept).take limit.toNat := by
  rw [sanitize, String.toList_ofList, cut, if_neg (by omega)]
  rfl

theorem isKept_of_mem (positive : 0 < limit) {c : Char}
    (member : c ∈ (sanitize limit message).toList) : isKept c = true := by
  rw [toList_sanitize positive] at member
  exact (List.mem_filter.mp (List.mem_of_mem_take member)).2

theorem isKept_iff {c : Char} :
    isKept c = true ↔ c = '\n' ∨ 32 ≤ c.toNat ∧ (c.toNat < 127 ∨ 160 ≤ c.toNat) := by
  simp only [isKept, isControl, Bool.or_eq_true, beq_iff_eq, Bool.not_eq_true', Bool.or_eq_false_iff,
    Bool.and_eq_false_iff, decide_eq_false_iff_not, Nat.not_lt, Nat.not_le]

theorem length_sanitize (positive : 0 < limit) : (sanitize limit message).length ≤ limit := by
  have short := List.length_take_le limit.toNat (message.toList.filter isKept)
  rw [← toList_sanitize positive, String.length_toList] at short
  omega

/-- A message that has been made fit is fit. -/
theorem sanitize_sanitize (positive : 0 < limit) :
    sanitize limit (sanitize limit message) = sanitize limit message := by
  rw [← String.toList_inj, toList_sanitize positive,
    List.filter_eq_self.mpr fun c member => isKept_of_mem positive member,
    toList_sanitize positive, List.take_take, Nat.min_self]

end Sms

/-- The segments of a message are the fewest that hold its characters, in the alphabet that they
need. Unless the larger alphabet has the larger segments, text that is appended never lowers their
number, and a message that is made fit does not exceed its limit, has no control character but line
feeds, stays as it is when it is made fit again, and takes no segment more than before. -/
theorem segments_isLeast (settings : Settings)
    (plain : settings.sizes.plain.further ≤ settings.sizes.plain.first)
    (unicode : settings.sizes.unicode.further ≤ settings.sizes.unicode.first) :
    (∀ message : String,
      ((∀ c ∈ message.toList, c.toNat ≤ 127) →
        IsLeast {count | message.length ≤ settings.sizes.plain.capacity count}
          (Sms.segments settings.sizes message)) ∧
      ((∃ c ∈ message.toList, 127 < c.toNat) →
        IsLeast {count | message.length ≤ settings.sizes.unicode.capacity count}
          (Sms.segments settings.sizes message))) ∧
    (settings.sizes.unicode.first ≤ settings.sizes.plain.first →
      settings.sizes.unicode.further ≤ settings.sizes.plain.further →
        (∀ message more : String,
          Sms.segments settings.sizes message ≤ Sms.segments settings.sizes (message ++ more)) ∧
        ∀ given limit, Sms.limitOr settings.smsLimit given = limit → 0 < limit →
          ∀ message : String,
            Sms.sanitize limit (Sms.sanitize limit message) = Sms.sanitize limit message ∧
            (Sms.sanitize limit message).length ≤ limit ∧
            (∀ c ∈ (Sms.sanitize limit message).toList,
              c = '\n' ∨ 32 ≤ c.toNat ∧ (c.toNat < 127 ∨ 160 ≤ c.toNat)) ∧
            Sms.segments settings.sizes (Sms.sanitize limit message) ≤
              Sms.segments settings.sizes message) := by
  refine ⟨fun message => ⟨fun ascii => ?_, fun beyond => ?_⟩, fun first further => ?_⟩
  · rw [Sms.segments_of_plain ascii]
    exact SegmentSizes.count_isLeast plain message.length
  · rw [Sms.segments_of_beyond beyond]
    exact SegmentSizes.count_isLeast unicode message.length
  have shrinks : settings.sizes.Shrinks := ⟨first, further, plain, unicode⟩
  refine ⟨fun message more => ?_, fun given limit _ positive message => ?_⟩
  · refine Sms.segments_le shrinks ?_
    rw [String.toList_append]
    exact List.sublist_append_left _ _
  · exact ⟨Sms.sanitize_sanitize positive, Sms.length_sanitize positive,
      fun c member => Sms.isKept_iff.mp (Sms.isKept_of_mem positive member),
      Sms.segments_le shrinks (Sms.sanitize_sublist limit message)⟩

/-- A text beyond ASCII that is one bell too long for a single segment. -/
def sampleText : String := String.ofList ('é' :: '\x07' :: List.replicate 66 'a')

/-- The text takes two segments, and without the bell no more than that. -/
theorem bell_takes_segment :
    Sample.settings.sizes.plain.further ≤ Sample.settings.sizes.plain.first ∧
      Sample.settings.sizes.unicode.first ≤ Sample.settings.sizes.plain.first ∧
      IsLeast {count | sampleText.length ≤ Sample.settings.sizes.unicode.capacity count} 2 ∧
      Sms.sanitize 1000 (Sms.sanitize 1000 sampleText) = Sms.sanitize 1000 sampleText ∧
      Sms.segments Sample.settings.sizes (Sms.sanitize 1000 sampleText) ≤ 2 := by
  have takes : Sms.segments Sample.settings.sizes sampleText = 2 := by decide +kernel
  obtain ⟨least, fit⟩ := segments_isLeast Sample.settings (by decide) (by decide)
  obtain ⟨-, fit⟩ := fit (by decide) (by decide)
  obtain ⟨again, -, -, fewer⟩ := fit none 1000 rfl (by decide) sampleText
  have beyond := (least sampleText).2 ⟨'é', by decide +kernel, by decide⟩
  rw [takes] at beyond fewer
  exact ⟨by decide, by decide, beyond, again, fewer⟩

end Herald
