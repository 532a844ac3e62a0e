import Herald.Proofs.Exact
import Herald.Proofs.Turns

/-! # One pass at a time

`Course` is what a whole sequence of operations can do to the status of a campaign, with the marks
that its passes leave. What holds of passes that compete for a campaign is read off the courses
alone, without a world.
-/

namespace Herald

variable {σ α : Type}

/-- A way through a campaign's statuses, with the marks that it leaves. -/
inductive Course : Option CampaignStatus → List Mark → Prop
  | stop (status : Option CampaignStatus) : Course status []
  | turn {mark : Option Mark} {before after : Option CampaignStatus} {marks : List Mark}
    (turn : Turn mark before after) (rest : Course after marks) :
    Course before (mark.toList ++ marks)

/-- Any sequence of operations is a course of every campaign. -/
theorem marks_course [Amount α] (id : Int) (world : World σ α)
    (steps : List (Moment × Operation)) :
    Course (world.status? id) (world.marks id steps) := by
  induction steps generalizing world with
  | nil => exact .stop _
  | cons step rest ih =>
    exact .turn (step.2.turns id { world with now := step.1 }) (ih _)

namespace Course

variable {before : Option CampaignStatus} {mark : Mark} {past passage later : List Mark}

/-- A mark stands where the campaign has taken its turn, perhaps behind others that show nothing. -/
theorem first (course : Course before (mark :: later)) :
    ∃ middle after, Turn none before middle ∧ Turn (some mark) middle after ∧
      Course after later := by
  generalize shows : mark :: later = marks at course
  induction course with
  | stop => cases shows
  | @turn shown before middle marks turn rest ih =>
    cases shown with
    | none =>
      obtain ⟨next, after, rests, turns, rest⟩ := ih shows
      exact ⟨next, after, turn.rest rests, turns, rest⟩
    | some =>
      cases shows
      exact ⟨before, middle, .still _, turn, rest⟩

/-- What follows a mark is a course of its own. -/
theorem behind (course : Course before (past ++ mark :: later)) :
    ∃ middle after, Turn (some mark) middle after ∧ Course after later := by
  induction past generalizing before with
  | nil =>
    obtain ⟨middle, after, _, turn, rest⟩ := course.first
    exact ⟨middle, after, turn, rest⟩
  | cons head past ih =>
    obtain ⟨_, _, _, _, rest⟩ := course.first
    exact ih rest

/-- A campaign that is over shows nothing any more. -/
theorem terminal {status : CampaignStatus} {marks : List Mark} (course : Course (some status) marks)
    (terminal : status.isTerminal = true) : marks = [] := by
  generalize stood : some status = before at course
  induction course with
  | stop => rfl
  | turn turn rest ih =>
    subst stood
    obtain ⟨rfl, rfl⟩ := turn.still_of_terminal terminal
    exact ih rfl

/-- Nothing is shown behind a final mark. -/
theorem final (course : Course before (past ++ mark :: later)) (final : mark.isFinal = true) :
    later = [] := by
  obtain ⟨middle, after, turn, rest⟩ := course.behind
  obtain ⟨status, rfl, terminal⟩ := turn.terminal final
  exact rest.terminal terminal

/-- A pass ends right behind its begin. -/
theorem ends (course : Course before (past ++ mark :: later)) (waiting : before ≠ some .sending)
    (endsPass : mark.endsPass = true) : ∃ earlier, past = earlier ++ [.begun] := by
  rcases List.eq_nil_or_concat past with rfl | ⟨earlier, last, rfl⟩
  · obtain ⟨middle, after, rests, turn, _⟩ := course.first
    exact absurd (turn.ends endsPass) (rests.waits waiting)
  · rw [List.concat_eq_append, List.append_assoc] at course
    obtain ⟨_, stood, turn, rest⟩ := course.behind
    obtain ⟨middle, _, rests, turn', _⟩ := rest.first
    have sending : stood = some .sending := by
      by_contra waits
      exact rests.waits waits (turn'.ends endsPass)
    subst sending
    exact ⟨earlier, by rw [List.concat_eq_append, turn.begun_of_sending]⟩

/-- A mark with another pass behind it leads the campaign back to waiting, unless it begins a pass
itself. -/
theorem left_of_followed (course : Course before (mark :: (past ++ .begun :: later)))
    (apart : mark ≠ .begun) : ∃ exit, exit ≠ .completed ∧ mark = .left exit := by
  have course : Course before ([] ++ mark :: (past ++ .begun :: later)) := course
  have notFinal : mark.isFinal = false := by
    cases isFinal : mark.isFinal with
    | false => rfl
    | true => simpa using course.final isFinal
  cases mark with
  | begun => exact absurd rfl apart
  | left exit => exact ⟨exit, beq_eq_false_iff_ne.mp notFinal, rfl⟩
  | _ => cases notFinal

/-- Between two passes there is the end of the first one, back to waiting, and nothing else. -/
theorem between (course : Course before (past ++ .begun :: (passage ++ .begun :: later)))
    (passless : .begun ∉ passage) : ∃ exit, exit ≠ .completed ∧ passage = [.left exit] := by
  obtain ⟨_, stood, turn, course⟩ := course.behind
  cases turn.begins.2
  cases passage with
  | nil =>
    obtain ⟨middle, _, rests, turn, _⟩ := course.first
    exact absurd rests.sends turn.begins.1
  | cons mark rest =>
    obtain ⟨exit, returns, rfl⟩ := course.left_of_followed (fun same => passless (by simp [same]))
    obtain ⟨_, _, _, turn, course⟩ := course.first
    cases turn
    cases rest with
    | nil => exact ⟨exit, returns, rfl⟩
    | cons next rest =>
      obtain ⟨again, _, rfl⟩ := course.left_of_followed (fun same => passless (by simp [same]))
      have course : Course (some exit.status) ([] ++ .left again :: (rest ++ .begun :: later)) :=
        course
      obtain ⟨earlier, empty⟩ := course.ends (by cases exit <;> decide) rfl
      simp at empty

end Course

/-- Passes of a campaign exclude each other, whatever else is attempted: between two of them the
first one has ended and led the campaign back to waiting, a pass ends only where one has begun
behind the last end, and no pass begins, ends or is cancelled once the campaign is over. -/
theorem claims_exclusive [Amount α] (world : World σ α) (id : Int)
    (steps : List (Moment × Operation)) (waiting : world.status? id ≠ some .sending) :
    (∀ past passage later,
        world.marks id steps = past ++ .begun :: (passage ++ .begun :: later) → .begun ∉ passage →
          ∃ exit, exit ≠ .completed ∧ passage = [.left exit]) ∧
      (∀ past mark later, world.marks id steps = past ++ mark :: later → mark.endsPass = true →
        ∃ earlier, past = earlier ++ [.begun]) ∧
      ∀ past mark later, world.marks id steps = past ++ mark :: later → mark.isFinal = true →
        later = [] := by
  have course := marks_course id world steps
  refine ⟨fun past passage later shows passless => ?_, fun past mark later shows ends => ?_,
    fun past mark later shows final => ?_⟩
  · rw [shows] at course
    exact course.between passless
  · rw [shows] at course
    exact course.ends waiting ends
  · rw [shows] at course
    exact course.final final

namespace Sample

/-- Two passes of a campaign, an attempt to begin while the first one is sending, and attempts to go
on after it has been cancelled. -/
def attempts : List (Moment × Operation) :=
  ([.create "t" draft, .begin 1, .begin 1, .finish 1 .paused none none none,
    .finish 1 .completed none none none, .operate (.resume .utc 1), .begin 1,
    .expire 1 dawn, .operate (.cancel 1), .markFailed 1 "late", .begin 1] :
      List Operation).map
      fun operation => (dawn, operation)

end Sample

theorem sample_claims_exclusive :
    let world : World Unit Exact := World.opened ⟨0, by decide⟩ ()
    world.status? 1 ≠ some .sending ∧
      world.marks 1 Sample.attempts = [.begun, .left .paused, .begun, .cancelled] ∧
      ∃ exit, exit ≠ .completed ∧ [Mark.left .paused] = [.left exit] := by
  refine ⟨by decide +kernel, by decide +kernel, ?_⟩
  exact (claims_exclusive (World.opened ⟨0, by decide⟩ () : World Unit Exact) 1 Sample.attempts
    (by decide +kernel)).1 [] [.left .paused] [.cancelled] (by decide +kernel) (by decide)

end Herald
