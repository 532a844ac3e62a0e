import Herald.Campaign.Tally
import Herald.Proofs.Cents
import Herald.Proofs.Visits

/-! # What messages add up to

`Totals` are the four numbers that some messages come to. A tally counts the messages of a pass on
each channel, and the aggregates of a campaign show those of all its passes. As long as the messages
cost less than a decimal counts exactly, every message that is logged is counted.
-/

namespace Herald

/-- What some messages come to. -/
structure Totals where
  sent : ℕ
  delivered : ℕ
  failed : ℕ
  cost : ℚ

namespace Totals

def of (rows : List (Message Exact)) : Totals where
  sent := rows.countP fun row => row.status.isSuccess
  delivered := rows.countP fun row => row.status == .delivered
  failed := rows.countP fun row => row.status == .failed
  cost := (rows.map fun row => row.cost.value).sum

instance : Add Totals where
  add first second := ⟨first.sent + second.sent, first.delivered + second.delivered,
    first.failed + second.failed, first.cost + second.cost⟩

theorem of_append (first second : List (Message Exact)) :
    of (first ++ second) = of first + of second := by
  simp only [of, List.countP_append, List.map_append, List.sum_append]
  rfl

theorem cost_add (first second : Totals) : (first + second).cost = first.cost + second.cost := rfl

/-- What one message comes to. -/
def ofSent (cost : ℚ) : Sent → Totals
  | .charged _ => ⟨1, 0, 0, cost⟩
  | .simulated => ⟨1, 1, 0, cost⟩
  | .rejected => ⟨0, 0, 1, cost⟩

theorem of_row {row : Message Exact} {campaign : Campaign Exact} {target : TargetRecord}
    {channel : Channel} {sent : Sent} (records : row.Records campaign target channel sent) :
    of [row] = ofSent row.cost.value sent := by
  cases sent <;>
    simp [of, ofSent, records.status_eq, Sent.status, MessageStatus.isSuccess]

end Totals

/-- A row that was charged for has the cost that was charged. -/
theorem Message.Records.charged {row : Message Exact} {campaign : Campaign Exact}
    {target : TargetRecord} {channel : Channel} {cost : Decimal}
    (records : row.Records campaign target channel (.charged cost)) :
    cost.isFinite = true ∧ row.cost.value = cost.ratio := by
  have stored : BalanceLedger.stored cost = .ok row.cost := records.cost_eq
  cases finite : cost.isFinite with
  | false => simp [Exact.stored_of_infinite finite] at stored
  | true =>
    have same : ⟨cost.ratio, []⟩ = row.cost :=
      Except.ok.inj ((Exact.stored_of_finite finite).symm.trans stored)
    exact ⟨rfl, same ▸ rfl⟩

/-- A message whose cost is whole cents, and not below zero. -/
def Message.InCents (row : Message Exact) : Prop := ∃ cents : ℕ, row.cost.value = cents / 100

theorem Message.InCents.nonneg {row : Message Exact} (is : row.InCents) : 0 ≤ row.cost.value := by
  obtain ⟨cents, value⟩ := is
  rw [value]
  positivity

/-- Fewer messages cost no more. -/
theorem Totals.cost_le {rows more : List (Message Exact)} (fewer : rows.Sublist more)
    (cents : ∀ row ∈ more, row.InCents) : (of rows).cost ≤ (of more).cost := by
  refine List.Sublist.sum_le_sum (fewer.map _) fun value member => ?_
  obtain ⟨row, there, rfl⟩ := List.mem_map.mp member
  exact (cents row there).nonneg

/-- The messages on a channel. -/
def onChannel (channel : Channel) (rows : List (Message Exact)) : List (Message Exact) :=
  rows.filter fun row => row.channel == channel

theorem onChannel_append (channel : Channel) (first second : List (Message Exact)) :
    onChannel channel (first ++ second) = onChannel channel first ++ onChannel channel second :=
  List.filter_append ..

/-! ## Tallies -/

/-- A tally of messages on one channel that come to so much. -/
structure ChannelTally.Counts (tally : ChannelTally) (totals : Totals) : Prop where
  sent_eq : tally.sent = totals.sent
  delivered_eq : tally.delivered = totals.delivered
  failed_eq : tally.failed = totals.failed
  cost_eq : ∃ cents : ℕ, tally.cost.IsCents cents ∧ totals.cost = cents / 100

/-- A tally of some messages. -/
def Tally.Counts (tally : Tally) (rows : List (Message Exact)) : Prop :=
  ∀ channel, (tally.channel channel).Counts (.of (onChannel channel rows))

theorem Tally.counts_empty : Tally.empty.Counts [] := by
  intro channel
  cases channel <;> exact ⟨rfl, rfl, rfl, 0, Decimal.isCents_zero, by simp [Totals.of, onChannel]⟩

namespace ChannelTally.Counts

variable {tally : ChannelTally} {totals : Totals}

/-- A message that went out is counted if its cost can be. -/
theorem success (counts : tally.Counts totals) {cost : Decimal} {cents : ℕ}
    (is : cost.IsCents cents) (few : totals.cost + cents / 100 < Decimal.countable / 100)
    (delivered : Bool) : ∃ counted, tally.success cost delivered = .ok counted ∧
      counted.Counts (totals + ⟨1, if delivered then 1 else 0, 0, cents / 100⟩) := by
  obtain ⟨before, isBefore, totals_eq⟩ := counts.cost_eq
  have few : before + cents < Decimal.countable := by
    rw [totals_eq, ← add_div] at few
    exact_mod_cast (div_lt_div_iff_of_pos_right (by norm_num)).mp few
  obtain ⟨total, added, is⟩ := Decimal.add_cents isBefore is few
  refine ⟨_, by rw [ChannelTally.success, added], ?_, ?_, ?_, before + cents, is, ?_⟩
  · exact congrArg (· + 1) counts.sent_eq
  · exact congrArg (· + if delivered then 1 else 0) counts.delivered_eq
  · exact counts.failed_eq
  · rw [Totals.cost_add, totals_eq]
    push_cast
    ring

theorem failure (counts : tally.Counts totals) : tally.failure.Counts (totals + ⟨0, 0, 1, 0⟩) where
  sent_eq := counts.sent_eq
  delivered_eq := counts.delivered_eq
  failed_eq := congrArg (· + 1) counts.failed_eq
  cost_eq := by
    obtain ⟨cents, is, totals_eq⟩ := counts.cost_eq
    exact ⟨cents, is, by rw [Totals.cost_add, totals_eq, add_zero]⟩

end ChannelTally.Counts

theorem Tally.channel_withChannel (tally : Tally) (channel other : Channel)
    (counts : ChannelTally) :
    (tally.withChannel channel counts).channel other =
      if other = channel then counts else tally.channel other := by
  cases channel <;> cases other <;> rfl

/-- One more message is counted on its channel. -/
theorem Tally.Counts.withChannel {tally : Tally} {rows : List (Message Exact)}
    (counts : tally.Counts rows) {row : Message Exact} {counted : ChannelTally}
    (counts' : counted.Counts (.of (onChannel row.channel rows) + .of [row])) :
    (tally.withChannel row.channel counted).Counts (rows ++ [row]) := by
  intro channel
  rw [Tally.channel_withChannel, onChannel_append, Totals.of_append]
  by_cases same : channel = row.channel
  · have on : onChannel channel [row] = [row] := by simp [onChannel, same]
    rw [if_pos same, on, same]
    exact counts'
  · have off : onChannel channel [row] = [] := by simp [onChannel, Ne.symm same]
    rw [if_neg same, off, ← Totals.of_append, List.append_nil]
    exact counts channel

/-- A message that is logged is counted, if what has been spent can be counted. -/
theorem Tally.Counts.record {tally : Tally} {rows : List (Message Exact)}
    (counts : tally.Counts rows) {row : Message Exact} {campaign : Campaign Exact}
    {target : TargetRecord} {channel : Channel} {sent : Sent}
    (records : row.Records campaign target channel sent)
    (cents : ∀ other ∈ rows ++ [row], other.InCents)
    (few : (Totals.of (rows ++ [row])).cost < Decimal.countable / 100) :
    ∃ counted, tally.record channel sent = .ok counted ∧ counted.Counts (rows ++ [row]) := by
  have few : (Totals.of (onChannel row.channel rows)).cost + row.cost.value <
      Decimal.countable / 100 := by
    have part := Totals.cost_le (List.filter_sublist (p := fun other => other.channel == row.channel))
      fun other member => cents other (List.mem_append_left _ member)
    rw [Totals.of_append, Totals.cost_add, Totals.of_row records] at few
    have single : (Totals.ofSent row.cost.value sent).cost = row.cost.value := by cases sent <;> rfl
    rw [single] at few
    exact lt_of_le_of_lt (add_le_add_left part _) few
  have own := counts row.channel
  obtain rfl := records.channel_eq
  have cost_eq := records.cost_eq
  have single := Totals.of_row records
  cases sent with
  | charged cost =>
    obtain ⟨count, value⟩ := cents row (List.mem_append_right _ (List.mem_singleton_self row))
    have is : cost.IsCents count :=
      ⟨records.charged.1, by rw [← records.charged.2, value, Int.cast_natCast]⟩
    obtain ⟨counted, success, more⟩ := own.success is (value ▸ few) false
    refine ⟨tally.withChannel row.channel counted, ?_, counts.withChannel ?_⟩
    · rw [Tally.record, Tally.success, success]
      rfl
    · rw [single, value]
      exact more
  | simulated =>
    have value : row.cost.value = ((0 : ℕ) : ℚ) / 100 := by rw [cost_eq]; simp
    obtain ⟨counted, success, more⟩ := own.success Decimal.isCents_zero (value ▸ few) true
    refine ⟨tally.withChannel row.channel counted, ?_, counts.withChannel ?_⟩
    · rw [Tally.record, Tally.success, success]
      rfl
    · rw [single, value]
      exact more
  | rejected =>
    refine ⟨_, rfl, counts.withChannel ?_⟩
    rw [single, cost_eq]
    exact own.failure

namespace Pass

variable {campaign : Campaign Exact} {target : TargetRecord}

/-- The tally behind the messages to a target counts them all. -/
theorem Serves.counts {channels : List Channel} {tally total : Tally} {delivered : Bool}
    {rows : List (Message Exact)} {served : Served}
    (serves : Serves campaign target channels tally delivered rows total served)
    {before : List (Message Exact)} (counts : tally.Counts before)
    (cents : ∀ row ∈ before ++ rows, row.InCents)
    (few : (Totals.of (before ++ rows)).cost < Decimal.countable / 100) :
    total.Counts (before ++ rows) := by
  induction serves generalizing before with
  | done => exact (List.append_nil before).symm ▸ counts
  | unpaid => exact (List.append_nil before).symm ▸ counts
  | aborted => exact (List.append_nil before).symm ▸ counts
  | uncounted rest delivered records refused =>
    obtain ⟨counted, success, _⟩ := counts.record records cents few
    rw [refused] at success
    cases success
  | @sent channel rest tally counted total delivered sent row rows served records counts' others ih =>
    rw [← List.singleton_append, ← List.append_assoc] at cents few ⊢
    have first := Totals.cost_le (List.sublist_append_left (before ++ [row]) rows) cents
    obtain ⟨counted', success, more⟩ := counts.record records
      (fun row member => cents row (List.mem_append_left _ member)) (lt_of_le_of_lt first few)
    cases counts'.symm.trans success
    exact ih more cents few

/-- The tally behind a visit counts its messages too. -/
theorem Visits.counts {excluded : List Int} {progress : Progress} {rows : List (Message Exact)}
    {delivered : Bool} {visit : Visit Progress}
    (visits : Visits campaign excluded target progress rows delivered visit)
    {before : List (Message Exact)} (counts : progress.tally.Counts before)
    (cents : ∀ row ∈ before ++ rows, row.InCents)
    (few : (Totals.of (before ++ rows)).cost < Decimal.countable / 100) :
    visit.found.tally.Counts (before ++ rows) := by
  cases visits with
  | served admits serves goesOn =>
    have served := serves.counts counts cents few
    cases goesOn <;> exact served
  | _ => exact (List.append_nil before).symm ▸ counts

end Pass

/-! ## Aggregates -/

/-- Aggregates that come to so much. -/
structure Aggregates.Shows (aggregates : Aggregates Exact) (totals : Totals) : Prop where
  sent_eq : aggregates.sent = .int totals.sent
  delivered_eq : aggregates.delivered = .int totals.delivered
  failed_eq : aggregates.failed = .int totals.failed
  cost_eq : aggregates.cost.value = totals.cost

theorem Aggregates.shows_none : (Aggregates.none : Aggregates Exact).Shows (.of []) :=
  ⟨rfl, rfl, rfl, rfl⟩

theorem Cell.plus_int (number : ℤ) (count : ℕ) : (Cell.int number).plus count =
    .int (number + count) := by
  cases count with
  | zero => exact congrArg Cell.int (add_zero number).symm
  | succ count => rfl

/-- A tally can be added if its cost is a number. -/
theorem ChannelTally.addTo_ok {tally : ChannelTally} (finite : tally.cost.isFinite = true)
    (aggregates : Aggregates Exact) : ∃ added, tally.addTo aggregates = .ok added ∧
      added.sent = aggregates.sent.plus tally.sent ∧
      added.delivered = aggregates.delivered.plus tally.delivered ∧
      added.failed = aggregates.failed.plus tally.failed ∧
      added.cost.value = aggregates.cost.value + tally.cost.ratio := by
  unfold addTo
  by_cases zero : tally.cost.isZero = true
  · refine ⟨_, by rw [if_pos zero], rfl, rfl, rfl, ?_⟩
    rw [Decimal.ratio_of_isZero zero, add_zero]
  · have cost : (Amount.ofDecimal? tally.cost).bind (Amount.add? aggregates.cost) =
        some (aggregates.cost.become (aggregates.cost.value + tally.cost.ratio)) := by
      simp only [Amount.ofDecimal?, finite, ↓reduceIte, Option.bind_some, Exact.add?_eq]
    exact ⟨_, by rw [if_neg zero, cost], rfl, rfl, rfl, rfl⟩

/-- Nothing is no change. -/
theorem ChannelTally.addTo_of_isEmpty {α : Type} [Amount α] {tally : ChannelTally}
    (empty : tally.isEmpty = true) (aggregates : Aggregates α) : tally.addTo aggregates = .ok aggregates := by
  simp only [isEmpty, Bool.and_eq_true, beq_iff_eq] at empty
  obtain ⟨⟨⟨sent, delivered⟩, failed⟩, zero⟩ := empty
  rw [addTo, if_pos zero, sent, delivered, failed]
  rfl

/-- Aggregates that gain just what a tally counts. -/
structure Aggregates.Gains (before : Aggregates Exact) (tally : ChannelTally)
    (after : Aggregates Exact) : Prop where
  sent : ∃ count : ℤ, before.sent = .int count ∧ after.sent = .int (count + tally.sent)
  delivered : ∃ count : ℤ,
    before.delivered = .int count ∧ after.delivered = .int (count + tally.delivered)
  failed : ∃ count : ℤ, before.failed = .int count ∧ after.failed = .int (count + tally.failed)
  cost : after.cost.value = before.cost.value + tally.cost.ratio

/-- Aggregates to which a tally is added show what it counts. -/
theorem Aggregates.Shows.add {before after : Aggregates Exact} {totals more : Totals}
    (shows : before.Shows totals) {tally : ChannelTally} (counts : tally.Counts more)
    (added : tally.addTo before = .ok after) :
    after.Shows (totals + more) ∧ before.Gains tally after := by
  obtain ⟨cents, is, more_eq⟩ := counts.cost_eq
  obtain ⟨_, added', sent, delivered, failed, cost⟩ := tally.addTo_ok is.finite before
  cases added.symm.trans added'
  rw [shows.sent_eq, Cell.plus_int] at sent
  rw [shows.delivered_eq, Cell.plus_int] at delivered
  rw [shows.failed_eq, Cell.plus_int] at failed
  have ratio_eq : tally.cost.ratio = more.cost := by rw [is.ratio_eq, more_eq, Int.cast_natCast]
  refine ⟨⟨?_, ?_, ?_, ?_⟩, ?_⟩
  · rw [sent, counts.sent_eq]
    rfl
  · rw [delivered, counts.delivered_eq]
    rfl
  · rw [failed, counts.failed_eq]
    rfl
  · rw [cost, shows.cost_eq, ratio_eq]
    rfl
  · exact ⟨⟨_, shows.sent_eq, sent⟩, ⟨_, shows.delivered_eq, delivered⟩,
      ⟨_, shows.failed_eq, failed⟩, cost⟩

end Herald
