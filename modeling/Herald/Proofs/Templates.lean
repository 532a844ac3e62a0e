import Herald.Proofs.Numerals
import Herald.Template

/-! # Templates are filled in once

A template splits in one way only: a variable where one begins, and a single character everywhere
else. Listing the variables, filling them in and looking for unknown ones are read off that split, so
a value that is put in is never looked at again, and nothing but the entries of the variables
matters.
-/

namespace Herald

namespace Fields

variable {fields : Fields} {name : String}

theorem get?_eq_none_iff : fields.get? name = none ↔ name ∉ fields.names := by
  unfold get? names
  rw [List.mem_map]
  cases found : fields.find? fun field => field.1 == name with
  | none =>
    have foreign := List.find?_eq_none.mp found
    refine iff_of_true rfl ?_
    rintro ⟨field, member, rfl⟩
    exact foreign field member (beq_self_eq_true _)
  | some field =>
    refine iff_of_false nofun (not_not.mpr ⟨field, List.mem_of_find?_eq_some found, ?_⟩)
    simpa using List.find?_some found

end Fields

namespace Template

/-! ## Splitting -/

/-- The name of a variable: letters, digits and underscores of the ASCII characters, and at least
one of them. -/
def IsName (name : List Char) : Prop :=
  name ≠ [] ∧ ∀ c ∈ name, c.isAlphanum = true ∨ c = '_'

/-- The ways to split a text into pieces from left to right: where a variable is written it is a
piece, and where none is, the next character is one. -/
inductive Splits : List Char → List Piece → Prop
  | done : Splits [] []
  | placeholder {name rest : List Char} {pieces : List Piece} (named : IsName name)
    (more : Splits rest pieces) :
    Splits ((Piece.placeholder name).written ++ rest) (.placeholder name :: pieces)
  | literal {c : Char} {rest : List Char} {pieces : List Piece}
    (none : ∀ name after, IsName name → c :: rest ≠ (Piece.placeholder name).written ++ after)
    (more : Splits rest pieces) : Splits (c :: rest) (.literal c :: pieces)

theorem isKeyChar_iff {c : Char} :
    AttributeSpec.isKeyChar c = true ↔ c.isAlphanum = true ∨ c = '_' := by
  have alphanumeric : c.isAlphanum = ((decide ('A' ≤ c ∧ c ≤ 'Z') || ('a' ≤ c && c ≤ 'z')) ||
      ('0' ≤ c && c ≤ '9')) := rfl
  rw [alphanumeric, AttributeSpec.isKeyChar, Bool.or_eq_true, beq_iff_eq, Bool.decide_and,
    Bool.or_comm ('a' ≤ c && c ≤ 'z')]

theorem written_append (name after : List Char) :
    (Piece.placeholder name).written ++ after =
      '\x7b' :: '\x7b' :: (name ++ '\x7d' :: '\x7d' :: after) := by
  simp [Piece.written]

theorem variableAt?_eq_some_iff {chars name : List Char} :
    variableAt? chars = some name ↔
      IsName name ∧ ∃ after, chars = (Piece.placeholder name).written ++ after := by
  constructor
  · intro found
    unfold variableAt? at found
    split at found
    · rename_i rest
      dsimp only at found
      split at found
      · cases found
      · rename_i filled
        split at found
        · rename_i after closed
          cases found
          obtain ⟨joined, all, -⟩ := span_iff.mp ⟨rfl, closed⟩
          refine ⟨⟨mt List.isEmpty_iff.mpr filled, fun c member => isKeyChar_iff.mp (all c member)⟩,
            after, ?_⟩
          rw [written_append, joined]
        · cases found
    · cases found
  · rintro ⟨⟨filled, all⟩, after, rfl⟩
    have split : (name ++ '\x7d' :: '\x7d' :: after).takeWhile AttributeSpec.isKeyChar = name ∧
        (name ++ '\x7d' :: '\x7d' :: after).dropWhile AttributeSpec.isKeyChar =
          '\x7d' :: '\x7d' :: after := by
      refine span_iff.mpr ⟨rfl, fun c member => isKeyChar_iff.mpr (all c member), ?_⟩
      rintro c ⟨⟩
      rfl
    rw [written_append, variableAt?, split.1, split.2, if_neg (mt List.isEmpty_iff.mp filled)]
    rfl

/-! ### The pieces of a text -/

theorem piecesAfter_eq (covered : ℕ) (chars : List Char) :
    piecesAfter covered chars = pieces (chars.drop covered) := by
  induction chars generalizing covered with
  | nil => rw [List.drop_nil, pieces, piecesAfter, piecesAfter]
  | cons c rest ih =>
    cases covered with
    | zero => rfl
    | succ more => exact ih more

theorem pieces_placeholder {name : List Char} (named : IsName name) (rest : List Char) :
    pieces ((Piece.placeholder name).written ++ rest) = .placeholder name :: pieces rest := by
  have found := variableAt?_eq_some_iff.mpr ⟨named, rest, rfl⟩
  rw [written_append] at found ⊢
  rw [pieces, piecesAfter]
  simp only [found, piecesAfter_eq]
  simp

theorem pieces_literal {c : Char} {rest : List Char}
    (none : ∀ name after, IsName name → c :: rest ≠ (Piece.placeholder name).written ++ after) :
    pieces (c :: rest) = .literal c :: pieces rest := by
  rw [pieces, piecesAfter]
  cases found : variableAt? (c :: rest) with
  | none => rfl
  | some name =>
    obtain ⟨named, after, here⟩ := variableAt?_eq_some_iff.mp found
    exact absurd here (none name after named)

theorem pieces_splits (chars : List Char) : Splits chars (pieces chars) := by
  induction size : chars.length using Nat.strongRecOn generalizing chars with
  | ind size ih =>
    subst size
    cases chars with
    | nil => exact .done
    | cons c rest =>
      by_cases here :
          ∃ name after, IsName name ∧ c :: rest = (Piece.placeholder name).written ++ after
      · obtain ⟨name, after, named, here⟩ := here
        have shorter : after.length < (c :: rest).length := by
          rw [here, written_append]
          simp
          omega
        rw [here, pieces_placeholder named]
        exact .placeholder named (ih after.length shorter after rfl)
      · have none : ∀ name after, IsName name →
            c :: rest ≠ (Piece.placeholder name).written ++ after :=
          fun name after named same => here ⟨name, after, named, same⟩
        rw [pieces_literal none]
        exact .literal none (ih rest.length (Nat.lt_succ_self _) rest rfl)

/-- Every text splits, and in one way only. -/
theorem splits_iff {chars : List Char} {split : List Piece} :
    Splits chars split ↔ split = pieces chars := by
  constructor
  · intro splits
    induction splits with
    | done => rfl
    | placeholder named _ ih => rw [pieces_placeholder named, ih]
    | literal none _ ih => rw [pieces_literal none, ih]
  · rintro rfl
    exact pieces_splits chars

/-- The pieces of a text are written as the text. -/
theorem Splits.written {chars : List Char} {split : List Piece} (splits : Splits chars split) :
    split.flatMap Piece.written = chars := by
  induction splits with
  | done => rfl
  | placeholder _ _ ih => rw [List.flatMap_cons, ih]
  | literal _ _ ih => rw [List.flatMap_cons, ih, Piece.written, List.singleton_append]

/-! ## Variables in the order of their first use -/

/-- Without its repetitions, a list is in the order in which its items occur first. -/
theorem eraseDups_pairwise {α : Type} [BEq α] [LawfulBEq α] (list : List α) :
    list.eraseDups.Pairwise fun a b => list.idxOf a < list.idxOf b := by
  induction list using List.reverseRecOn with
  | nil => exact .nil
  | append_singleton list item ih =>
    have earlier : list.eraseDups.Pairwise fun a b =>
        (list ++ [item]).idxOf a < (list ++ [item]).idxOf b := by
      refine ih.imp_of_mem fun {a b} first second before => ?_
      rwa [List.idxOf_append_of_mem (List.mem_eraseDups.mp first),
        List.idxOf_append_of_mem (List.mem_eraseDups.mp second)]
    rw [List.eraseDups_append]
    by_cases known : item ∈ list
    · have repeats : [item].removeAll list = [] := by simp [List.removeAll, known]
      rwa [repeats, List.eraseDups_nil, List.append_nil]
    · have fresh : [item].removeAll list = [item] := by simp [List.removeAll, known]
      rw [fresh, List.pairwise_append]
      refine ⟨earlier, List.pairwise_singleton _ item, fun a first b second => ?_⟩
      obtain rfl := List.mem_singleton.mp second
      have member := List.mem_eraseDups.mp first
      rw [List.idxOf_append_of_mem member, List.idxOf_append_of_notMem known]
      exact (List.idxOf_lt_length_of_mem member).trans_le (Nat.le_add_right _ _)

theorem mem_variableNames {template name : String} :
    name ∈ variableNames template ↔ ∃ piece ∈ pieces template.toList, piece.name? = some name := by
  rw [variableNames, List.mem_eraseDups, List.mem_filterMap]

/-! ## Filling in -/

/-- What becomes of a piece: the variable of an entry becomes the text of the entry, and all else
stays as it is written. -/
def Piece.filled (values : Fields) : Piece → Except Value.Refusal (List Char)
  | .literal c => .ok [c]
  | .placeholder name =>
    match values.get? (String.ofList name) with
    | some value => value.written.map String.toList
    | none => .ok (Piece.placeholder name).written

/-- Whether a piece is a variable with an entry that is too deep. -/
def Piece.isTooDeep (values : Fields) (piece : Piece) : Bool :=
  piece.name?.any fun name => (values.getOrNull name).isTooDeep

theorem filled_eq (values : Fields) (piece : Piece) :
    piece.filled values =
      if piece.isTooDeep values then .error .tooDeep else .ok (piece.rendered values) := by
  cases piece with
  | literal c => rfl
  | placeholder name =>
    cases found : values.get? (String.ofList name) with
    | none => simp only [Piece.filled, Piece.rendered, Piece.isTooDeep, Piece.name?,
        Fields.getOrNull, Option.any_some, found]; rfl
    | some value =>
      simp only [Piece.filled, Piece.rendered, Piece.isTooDeep, Piece.name?, Fields.getOrNull,
        Option.any_some, Option.getD_some, Value.written, found]
      split <;> rfl

/-- Steps that can all fail in one way only. -/
theorem mapM_ite {ε α β : Type} (failure : ε) (fails : α → Bool) (f : α → β) (list : List α) :
    (list.mapM fun item => if fails item then Except.error failure else Except.ok (f item)) =
      if list.any fails then Except.error failure else Except.ok (list.map f) := by
  induction list with
  | nil => rfl
  | cons item rest ih =>
    rw [List.mapM_cons, ih, List.any_cons]
    cases fails item with
    | true => rfl
    | false => cases rest.any fails <;> rfl

theorem any_variableNames (template : String) (test : String → Bool) :
    (variableNames template).any test =
      (pieces template.toList).any fun piece => piece.name?.any test := by
  rw [Bool.eq_iff_iff, List.any_eq_true, List.any_eq_true]
  constructor
  · rintro ⟨name, used, holds⟩
    obtain ⟨piece, member, named⟩ := mem_variableNames.mp used
    exact ⟨piece, member, named ▸ holds⟩
  · rintro ⟨piece, member, holds⟩
    cases named : piece.name? with
    | none => simp [named] at holds
    | some name =>
      rw [named] at holds
      exact ⟨name, mem_variableNames.mpr ⟨piece, member, named⟩, holds⟩

/-- A template is filled in piece by piece. -/
theorem fill_eq (template : String) (values : Fields) :
    fill template values = ((pieces template.toList).mapM (Piece.filled values)).map
      fun parts => String.ofList parts.flatten := by
  rw [fill, any_variableNames, funext (filled_eq values), mapM_ite]
  change (if (pieces template.toList).any (Piece.isTooDeep values) then _ else _) = _
  cases (pieces template.toList).any (Piece.isTooDeep values) with
  | true => rfl
  | false => rfl

theorem rendered_congr {values others : Fields} {piece : Piece}
    (same : ∀ name, piece.name? = some name → values.get? name = others.get? name) :
    piece.rendered values = piece.rendered others := by
  cases piece with
  | literal c => rfl
  | placeholder name => simp only [Piece.rendered, same _ rfl]

/-- Only the entries of its variables matter to a template. -/
theorem fill_congr {template : String} {values others : Fields}
    (same : ∀ name ∈ variableNames template, values.get? name = others.get? name) :
    fill template values = fill template others := by
  have deep : ((variableNames template).any fun name => (values.getOrNull name).isTooDeep) =
      (variableNames template).any fun name => (others.getOrNull name).isTooDeep := by
    rw [Bool.eq_iff_iff, List.any_eq_true, List.any_eq_true]
    refine exists_congr fun name => and_congr_right fun used => ?_
    rw [Fields.getOrNull, Fields.getOrNull, same name used]
  have text : render template values = render template others := by
    refine congrArg String.ofList (List.flatMap_congr fun piece member => rendered_congr ?_)
    exact fun name named => same name (mem_variableNames.mpr ⟨piece, member, named⟩)
  rw [fill, fill, deep, text]

/-! ## Unknown variables -/

theorem mem_unknown {template name : String} {known : List String} :
    name ∈ unknown template known ↔ name ∈ variableNames template ∧ name ∉ known := by
  simp [unknown]

/-- Among known names, the unknown variables are those without an entry. -/
theorem unknown_eq {template : String} {known : List String} {values : Fields}
    (keyed : ∀ key, key ∈ values.names ↔ key ∈ known) :
    unknown template known =
      (variableNames template).filter fun name => (values.get? name).isNone := by
  refine List.filter_congr fun name _ => ?_
  rw [Bool.eq_iff_iff, Option.isNone_iff_eq_none, Fields.get?_eq_none_iff, keyed]
  simp

/-- A variable without an entry is the only one that stays as it is written whatever the entries
say. -/
theorem stays_written_iff {known : List String} {name : String} :
    (∀ values : Fields, (∀ key, key ∈ values.names ↔ key ∈ known) →
        (Piece.placeholder name.toList).filled values =
          .ok (Piece.placeholder name.toList).written) ↔ name ∉ known := by
  constructor
  · intro stays member
    have keyed : ∀ key, key ∈ Fields.names (known.map fun key => (key, .null)) ↔ key ∈ known := by
      simp [Fields.names]
    have blank : Fields.get? (known.map fun key => (key, .null)) name = some .null := by
      have there : ((known.find? fun key => key == name).isSome) = true :=
        List.find?_isSome.mpr ⟨name, member, beq_self_eq_true name⟩
      obtain ⟨key, found⟩ := Option.isSome_iff_exists.mp there
      rw [Fields.get?, List.find?_map]
      have same : known.find? ((fun field : String × Value => field.1 == name) ∘
          fun key => (key, .null)) = some key := found
      rw [same]
      rfl
    have same := stays _ keyed
    rw [Piece.filled, String.ofList_toList, blank] at same
    cases Except.ok.inj same
  · intro foreign values keyed
    have missing := Fields.get?_eq_none_iff.mpr (mt (keyed name).mp foreign)
    simp only [Piece.filled, String.ofList_toList, missing]

/-! ## One substitution -/

/-- What is done with a template, in terms of the pieces that it splits into. -/
structure Substitutes (template : String) (split : List Piece) : Prop where
  written : split.flatMap Piece.written = template.toList
  /-- The variables of a template are those of its pieces, each once, in the order of their first
  use. -/
  uses : ∀ name, name ∈ variableNames template ↔ ∃ piece ∈ split, piece.name? = some name
  inOrder : (variableNames template).Pairwise fun first second =>
    (split.filterMap Piece.name?).idxOf first < (split.filterMap Piece.name?).idxOf second
  fills : ∀ values, fill template values =
    (split.mapM (Piece.filled values)).map fun parts => String.ofList parts.flatten
  /-- The unknown variables are those that have no entry, and no others stay as they are written
  whatever the entries say. -/
  lists : ∀ known (values : Fields), (∀ key, key ∈ values.names ↔ key ∈ known) →
    unknown template known = (variableNames template).filter fun name => (values.get? name).isNone
  stays : ∀ known name, name ∈ unknown template known ↔ name ∈ variableNames template ∧
    ∀ values : Fields, (∀ key, key ∈ values.names ↔ key ∈ known) →
      (Piece.placeholder name.toList).filled values = .ok (Piece.placeholder name.toList).written
  rests : ∀ values others : Fields,
    (∀ name ∈ variableNames template, values.get? name = others.get? name) →
      fill template values = fill template others

/-- A template splits into literal characters and variables in exactly one way, and it is listed,
filled in and checked by its pieces, once and from left to right. -/
theorem templates_filled_once (template : String) :
    ∃ split, (∀ other, Splits template.toList other ↔ other = split) ∧
      Substitutes template split := by
  refine ⟨pieces template.toList, fun other => splits_iff, ?_⟩
  exact
    { written := (pieces_splits template.toList).written
      uses := fun name => mem_variableNames
      inOrder := eraseDups_pairwise _
      fills := fill_eq template
      lists := fun known values keyed => unknown_eq keyed
      stays := fun known name => by rw [mem_unknown, stays_written_iff]
      rests := fun values others same => fill_congr same }

/-- Of three braces the first is a character, and a variable inside a value is none. -/
example : fill "\x7b\x7b\x7ba\x7d\x7d\x7d" [("a", .text "\x7b\x7bb\x7d\x7d"), ("b", .int 1)] =
    .ok "\x7b\x7b\x7bb\x7d\x7d\x7d" := by
  decide +kernel

end Template

end Herald
