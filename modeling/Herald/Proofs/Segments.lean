import Herald.Proofs.Estimates
import Herald.Proofs.Unpaid

/-! # Segments of a template

What a campaign writes to a target is its template, made fit for the channel: characters are left
out and the rest is cut. So a text without variables never takes more segments than its template,
as long as the smaller alphabet does not have the larger segments and a segment that is joined to
others is not larger than one that stands alone.
-/

namespace Herald

/-! ## Templates without variables -/

namespace Template

variable {values : Fields}

/-- Pieces that are all literal are the text itself. -/
theorem literal_pieces {chars : List Char} {covered : ℕ}
    (literal : (piecesAfter covered chars).filterMap Piece.name? = []) :
    (piecesAfter covered chars).flatMap (Piece.rendered values) = chars.drop covered := by
  induction chars generalizing covered with
  | nil => simp [piecesAfter]
  | cons c rest ih =>
    cases covered with
    | succ more => exact ih literal
    | zero =>
      unfold piecesAfter at literal ⊢
      cases placed : variableAt? (c :: rest) with
      | some name => simp [placed, Piece.name?] at literal
      | none =>
        simp only [placed, List.filterMap_cons, Piece.name?] at literal
        simp only [List.flatMap_cons, ih literal, Piece.rendered, List.drop_zero,
          List.cons_append, List.nil_append]

/-- A template without variables is rendered as it is written. -/
theorem render_eq {template : String} (plain : variableNames template = []) (values : Fields) :
    render template values = template := by
  have literal : (pieces template.toList).filterMap Piece.name? = [] := by
    unfold variableNames at plain
    cases names : (pieces template.toList).filterMap Piece.name? with
    | nil => rfl
    | cons name rest =>
      rw [names, List.eraseDups_cons] at plain
      cases plain
  rw [render, pieces, literal_pieces literal, List.drop_zero, String.ofList_toList]

end Template

/-! ## Lengths -/

theorem not_isVanishing {length size : ℕ} (more : size < length) :
    isVanishing length size = false := by
  unfold isVanishing
  have power : 0 < Number.twoPow (Binary64.unitBits + 1) := by decide +kernel
  have scaled := Nat.le_mul_of_pos_right length power
  exact decide_eq_false (by omega)

/-- Segments as many as are full before the last character, and the one it is in. -/
theorem SegmentSizes.joined_eq (sizes : SegmentSizes) {length : ℕ} (some : 0 < length) :
    (length + sizes.further - 1) / sizes.further = (length - 1) / sizes.further + 1 := by
  rw [← Nat.add_div_right _ sizes.further_pos]
  congr 1
  omega

/-- What does not fit a segment alone is spread over several. -/
theorem SegmentSizes.count_of_lt (sizes : SegmentSizes) {length : ℕ} (several : sizes.first < length)
    (more : sizes.further < length) : sizes.count length = (length - 1) / sizes.further + 1 := by
  have measurable : ¬ isVanishing length sizes.further = true := by
    rw [not_isVanishing more]
    exact Bool.false_ne_true
  rw [count, if_neg (by omega), if_neg (by omega), if_neg measurable, sizes.joined_eq (by omega)]

theorem SegmentSizes.count_le_joined {sizes : SegmentSizes} {length : ℕ} (some : 0 < length) :
    sizes.count length ≤ (length - 1) / sizes.further + 1 := by
  unfold count
  rw [sizes.joined_eq some]
  generalize (length - 1) / sizes.further = full
  split_ifs <;> omega

/-- A shorter text in larger segments takes no more of them. -/
theorem SegmentSizes.count_le {large small : SegmentSizes} {short long : ℕ} (le : short ≤ long)
    (first : small.first ≤ large.first) (further : small.further ≤ large.further)
    (joined : small.further ≤ small.first) : large.count short ≤ small.count long := by
  rcases Nat.eq_zero_or_pos short with none | some
  · rw [none]
    exact Nat.zero_le _
  rcases le_or_gt long small.first with single | several
  · have one : small.count long = 1 := by
      unfold count
      rw [if_neg (by omega), if_pos single]
    rw [one, count, if_neg (by omega), if_pos (by omega)]
  have spread := small.count_of_lt several (joined.trans_lt several)
  have shares : (short - 1) / large.further ≤ (long - 1) / small.further :=
    Nat.div_le_div (by omega) further small.further_pos.ne'
  rw [spread]
  exact (count_le_joined some).trans (Nat.succ_le_succ shares)

/-! ## Messages -/

/-- Segments that do not grow when characters are left out: neither the smaller alphabet nor a
message of one segment has the larger ones. -/
structure SmsSizes.Shrinks (sizes : SmsSizes) : Prop where
  first : sizes.unicode.first ≤ sizes.plain.first
  further : sizes.unicode.further ≤ sizes.plain.further
  plain : sizes.plain.further ≤ sizes.plain.first
  unicode : sizes.unicode.further ≤ sizes.unicode.first

namespace Sms

variable {sizes : SmsSizes}

theorem sanitize_sublist (limit : ℤ) (message : String) :
    (sanitize limit message).toList.Sublist message.toList := by
  unfold sanitize cut
  rw [String.toList_ofList]
  exact (List.take_sublist _ _).trans List.filter_sublist

/-- A message of which characters are left out takes no more segments. -/
theorem segments_le (shrinks : sizes.Shrinks) {text message : String}
    (part : text.toList.Sublist message.toList) :
    segments sizes text ≤ segments sizes message := by
  have le : text.length ≤ message.length := by
    rw [← String.length_toList, ← String.length_toList]
    exact part.length_le
  unfold segments sizesFor
  by_cases wide : needsUnicode message.toList = true
  · rw [if_pos wide]
    split
    · exact SegmentSizes.count_le le le_rfl le_rfl shrinks.unicode
    · exact SegmentSizes.count_le le shrinks.first shrinks.further shrinks.unicode
  · have narrow : ¬ needsUnicode text.toList = true := by
      intro wider
      obtain ⟨c, holds, beyond⟩ := List.any_eq_true.mp wider
      exact wide (List.any_eq_true.mpr ⟨c, part.subset holds, beyond⟩)
    rw [if_neg wide, if_neg narrow]
    exact SegmentSizes.count_le le le_rfl le_rfl shrinks.plain

end Sms

/-! ## Costs -/

/-- Prices in whole cents: of a segment, and of an e-mail. -/
structure Tariff where
  segment : ℕ
  email : ℕ

/-- What a message of so many segments is charged with on a channel. -/
def Tariff.charge (tariff : Tariff) (segments : ℕ) : Channel → ℕ
  | .sms => segments * tariff.segment
  | .email => tariff.email

/-- Whether the prices are these cents. -/
structure Settings.IsPriced (settings : Settings) (tariff : Tariff) : Prop where
  segment : settings.smsPrice.IsCents tariff.segment
  email : settings.emailPrice.IsCents tariff.email

/-- How many segments a campaign's template takes. -/
def Settings.segmentsOf (settings : Settings) (content : Content) : ℕ :=
  Sms.segments settings.sizes (content.template.getD "")

/-- What makes the price of a template a bound of what its messages cost: there are no variables in
it, prices are whole cents, and segments do not grow when characters are left out. -/
structure Settings.Foresees (settings : Settings) (content : Content) (tariff : Tariff) : Prop where
  plain : Template.variableNames (content.template.getD "") = []
  priced : settings.IsPriced tariff
  shrinks : settings.sizes.Shrinks

variable {settings : Settings} {tariff : Tariff}

/-- A message costs no more than its template. -/
theorem Composed.cost_le {content : Content} {attributes : Fields} {channel : Channel}
    {composed : Composed} (foresees : settings.Foresees content tariff)
    (ok : of settings content attributes channel = .ok composed)
    (few : tariff.charge (settings.segmentsOf content) channel < Decimal.countable) :
    ∃ cents ≤ tariff.charge (settings.segmentsOf content) channel,
      composed.cost.IsCents (cents : ℕ) := by
  cases channel with
  | email =>
    cases ok
    exact ⟨tariff.email, le_rfl, foresees.priced.email⟩
  | sms =>
    have le : Sms.segments settings.sizes composed.content ≤ settings.segmentsOf content := by
      have text : composed.content = Sms.sanitize settings.smsLimit (content.template.getD "") := by
        unfold of ofSms at ok
        dsimp only at ok
        rw [Template.render_eq foresees.plain] at ok
        split at ok
        · cases ok
          rfl
        · cases ok
      rw [text]
      exact Sms.segments_le foresees.shrinks (Sms.sanitize_sublist _ _)
    have cheaper := Nat.mul_le_mul_right tariff.segment le
    obtain ⟨cost, costs, exact⟩ := Decimal.mul_exact foresees.priced.segment (cheaper.trans_lt few)
    have own := (Composed.ofSms_ok ok).2
    rw [Sms.segmentCost, costs] at own
    cases own
    exact ⟨_, cheaper, exact⟩

/-- What a pass is charged with if every target counted is sent the template. -/
def Tariff.total (tariff : Tariff) (segments : ℕ) (reach : Reach) (counts : EligibleCounts) : ℕ :=
  (if reach.needsPhone then counts.sms * tariff.charge segments .sms else 0) +
    (if reach.needsEmail then counts.email * tariff.charge segments .email else 0)

variable {α : Type} {campaign : Campaign α} {counts : EligibleCounts} {cents : ℕ}

/-- A rough cost is not below what its segments are charged with. -/
theorem Sms.estimate_atLeast {count : ℕ} {template : String} {rough : Decimal}
    (priced : settings.IsPriced tariff) (few : cents < Decimal.countable)
    (le : cents ≤ count * tariff.charge (segments settings.sizes template) .sms)
    (ok : estimate settings.sizes settings.smsPrice template count = .ok rough) :
    rough.IsAtLeast cents := by
  obtain ⟨product, exact, rounds⟩ := ok_of_bind ok
  rw [segmentCost, ← Nat.cast_mul] at exact
  refine Decimal.toCents_atLeast (Decimal.mul_atLeast priced.segment exact few ?_) rounds
  rwa [mul_assoc]

/-- An estimate is not below what the pass is charged with, as far as cents are counted. -/
theorem Forecast.estimatedCost_atLeast {estimate : Decimal} (priced : settings.IsPriced tariff)
    (few : cents < Decimal.countable)
    (le : cents ≤ tariff.total (settings.segmentsOf campaign.content) campaign.reach counts)
    (ok : estimatedCost settings campaign counts = .ok estimate) : estimate.IsAtLeast cents := by
  unfold Tariff.total at le
  generalize texted : (if campaign.reach.needsPhone then
    counts.sms * tariff.charge (settings.segmentsOf campaign.content) .sms else 0) = texts at le
  obtain ⟨first, second, rfl, some, others⟩ : ∃ first second, cents = first + second ∧
      first ≤ texts ∧ second ≤ if campaign.reach.needsEmail then
        counts.email * tariff.charge (settings.segmentsOf campaign.content) .email else 0 :=
    ⟨min cents texts, cents - texts, by omega, by omega, by omega⟩
  have mailed : ∀ sms : Decimal, sms.IsAtLeast first →
      (if campaign.reach.needsEmail then do
          sms.add (← Decimal.mul (.ofInt counts.email) settings.emailPrice)
        else return sms) = .ok estimate → estimate.IsAtLeast (first + second) := by
    intro sms text rest
    split_ifs at rest others with mail
    · obtain ⟨cost, costs, sum⟩ := ok_of_bind rest
      exact Decimal.add_atLeast text (Decimal.mul_atLeast priced.email costs (by omega) others) few
        sum
    · cases rest
      obtain rfl : second = 0 := by omega
      exact text
  unfold estimatedCost at ok
  dsimp only at ok
  by_cases phone : campaign.reach.needsPhone = true
  · rw [if_pos phone] at ok texted
    obtain ⟨cost, costs, rest⟩ := ok_of_bind ok
    obtain ⟨sms, sum, rest⟩ := ok_of_bind rest
    have least := Sms.estimate_atLeast priced (by omega) (some.trans_eq texted.symm) costs
    refine mailed sms ?_ rest
    simpa only [zero_add] using Decimal.add_atLeast Decimal.isAtLeast_zero least (by omega) sum
  · rw [if_neg phone] at ok texted
    obtain rfl : first = 0 := by omega
    exact mailed .zero Decimal.isAtLeast_zero ok

end Herald
