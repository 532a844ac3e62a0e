import Mathlib.Data.List.Basic
import Herald.Pass.Compose

/-! # Documents show texts as they are

The document of an e-mail is a fixed layout with two slots, one for the sender and one for the body.
What stands in them has no markup but the line breaks, and reads back as the sender and the body, so
a document tells what was written, whatever the values are that were filled in.
-/

namespace Herald.Email

/-! ## Replacing codes -/

/-- A text in which every code of a table is replaced by its character, from left to right, the first
`covered` characters being left out. -/
def replacedAfter (codes : List (List Char × Char)) (covered : ℕ) : List Char → List Char
  | [] => []
  | c :: rest =>
    match covered with
    | more + 1 => replacedAfter codes more rest
    | 0 =>
      match codes.find? fun code => code.1.isPrefixOf (c :: rest) with
      | some code => code.2 :: replacedAfter codes (code.1.length - 1) rest
      | none => c :: replacedAfter codes 0 rest

/-- A text in which every code of a table is replaced by its character, from left to right. -/
def replaced (codes : List (List Char × Char)) (chars : List Char) : List Char :=
  replacedAfter codes 0 chars

/-- The line end that some systems write. -/
def lineEnds : List (List Char × Char) := [("\r\n".toList, '\n')]

/-- The markup that a line of the body ends in. -/
def lineBreaks : List (List Char × Char) := [("<br>\n".toList, '\n')]

/-- The five character entities. -/
def entities : List (List Char × Char) :=
  [("&amp;".toList, '&'), ("&lt;".toList, '<'), ("&gt;".toList, '>'), ("&quot;".toList, '"'),
    ("&#x27;".toList, '\'')]

/-- What a slot of a document says. -/
def decoded (slot : List Char) : List Char := replaced entities (replaced lineBreaks slot)

section

variable {codes : List (List Char × Char)} {c d first : Char} {code rest : List Char}

theorem replacedAfter_eq (covered : ℕ) (chars : List Char) :
    replacedAfter codes covered chars = replaced codes (chars.drop covered) := by
  induction chars generalizing covered with
  | nil => rw [List.drop_nil, replaced, replacedAfter, replacedAfter]
  | cons c rest ih =>
    cases covered with
    | zero => rfl
    | succ more => exact ih more

theorem replaced_code (found : (codes.find? fun entry => entry.1.isPrefixOf (c :: (code ++ rest))) =
    some (c :: code, d)) : replaced codes (c :: (code ++ rest)) = d :: replaced codes rest := by
  rw [replaced, replacedAfter]
  simp only [found, replacedAfter_eq]
  simp

theorem replaced_char (none : ∀ entry ∈ codes, ¬ entry.1 <+: c :: rest) :
    replaced codes (c :: rest) = c :: replaced codes rest := by
  have missing : (codes.find? fun entry => entry.1.isPrefixOf (c :: rest)) = Option.none :=
    List.find?_eq_none.mpr fun entry member found =>
      none entry member (List.isPrefixOf_iff_prefix.mp found)
  rw [replaced, replacedAfter, missing]
  rfl

/-- A character that no code begins with stays. -/
theorem replaced_plain (opening : ∀ entry ∈ codes, entry.1.head? = some first)
    (differs : c ≠ first) : replaced codes (c :: rest) = c :: replaced codes rest := by
  refine replaced_char fun entry member starts => differs ?_
  obtain ⟨after, joined⟩ := starts
  have head := opening entry member
  cases written : entry.1 with
  | nil =>
    rw [written] at head
    cases head
  | cons other more =>
    rw [written] at head joined
    exact (List.cons.inj joined).1.symm.trans (Option.some_inj.mp head)

theorem replaced_of_foreign (opening : ∀ entry ∈ codes, entry.1.head? = some first)
    {chars : List Char} (foreign : first ∉ chars) : replaced codes chars = chars := by
  induction chars with
  | nil => rfl
  | cons c rest ih =>
    obtain ⟨differs, others⟩ := not_or.mp (mt List.mem_cons.mpr foreign)
    rw [replaced_plain opening (Ne.symm differs), ih others]

end

/-! ## What stands in a slot -/

/-- Characters that could be markup, or end a quoted value. -/
def markupChars : List Char := ['<', '>', '"', '\'']

/-- An escaped character has no markup, and no line feed unless it is one. -/
theorem escapedChar_clean (c : Char) :
    ∀ d ∈ escapedChar c, d ∉ markupChars ∧ (d = '\n' → c = '\n') := by
  unfold escapedChar
  split_ifs with amp less greater quote single
  iterate 5 simp +decide [markupChars]
  intro d member
  obtain rfl := List.mem_singleton.mp member
  exact ⟨by simp [markupChars, less, greater, quote, single], id⟩

theorem escaped_clean (text : List Char) : ∀ c ∈ escaped text, c ∉ markupChars := by
  intro c member
  obtain ⟨d, -, written⟩ := List.mem_flatMap.mp member
  exact (escapedChar_clean d c written).1

theorem less_not_mem_escaped (text : List Char) : '<' ∉ escaped text :=
  fun member => escaped_clean text _ member (by decide)

/-- Entities are read back as the characters that they stand for. -/
theorem replaced_escaped (text : List Char) : replaced entities (escaped text) = text := by
  induction text with
  | nil => rfl
  | cons c rest ih =>
    rw [escaped, List.flatMap_cons, ← escaped]
    unfold escapedChar
    split_ifs with amp less greater quote single
    · subst amp
      exact (replaced_code rfl).trans (congrArg _ ih)
    · subst less
      exact (replaced_code rfl).trans (congrArg _ ih)
    · subst greater
      exact (replaced_code rfl).trans (congrArg _ ih)
    · subst quote
      exact (replaced_code rfl).trans (congrArg _ ih)
    · subst single
      exact (replaced_code rfl).trans (congrArg _ ih)
    · have plain : ∀ entry ∈ entities, entry.1.head? = some '&' := by decide
      rw [List.singleton_append, replaced_plain plain amp, ih]

theorem replaced_broken {text : List Char} (foreign : '<' ∉ text) :
    replaced lineBreaks (text.flatMap brokenChar) = text := by
  induction text with
  | nil => rfl
  | cons c rest ih =>
    obtain ⟨differs, others⟩ := not_or.mp (mt List.mem_cons.mpr foreign)
    rw [List.flatMap_cons, brokenChar]
    split_ifs with line
    · subst line
      exact (replaced_code rfl).trans (congrArg _ (ih others))
    · have plain : ∀ entry ∈ lineBreaks, entry.1.head? = some '<' := by decide
      rw [List.singleton_append, replaced_plain plain (Ne.symm differs), ih others]

theorem unixLines_eq (text : List Char) : unixLines text = replaced lineEnds text := by
  fun_induction unixLines text with
  | case1 => rfl
  | case2 rest ih =>
    change _ = replaced lineEnds ('\r' :: (['\n'] ++ rest))
    rw [replaced_code rfl, ih]
  | case3 c rest other ih =>
    rw [ih, replaced_char]
    rintro entry member ⟨after, joined⟩
    obtain rfl := List.mem_singleton.mp member
    obtain ⟨here, behind⟩ := List.cons.inj joined
    exact other after here.symm behind.symm

theorem decoded_escaped (text : List Char) : decoded (escaped text) = text := by
  have plain : ∀ entry ∈ lineBreaks, entry.1.head? = some '<' := by decide
  rw [decoded, replaced_of_foreign plain (less_not_mem_escaped text), replaced_escaped]

theorem decoded_bodyMarkup (body : List Char) :
    decoded (bodyMarkup body) = replaced lineEnds body := by
  rw [decoded, bodyMarkup, replaced_broken (less_not_mem_escaped _), replaced_escaped, unixLines_eq]

/-! ### Lines -/

theorem broken_escapedChar {c : Char} (inside : c ≠ '\n') :
    (escapedChar c).flatMap brokenChar = escapedChar c := by
  have kept : (escapedChar c).flatMap brokenChar = (escapedChar c).flatMap fun d => [d] :=
    List.flatMap_congr fun d member =>
      if_neg fun line => inside ((escapedChar_clean c d member).2 line)
  rw [kept, List.flatMap_singleton']

/-- The markup of a body is its lines with a break between them: there is no other markup, and a
break for every line feed. -/
theorem exists_lines (text : List Char) :
    ∃ lines, (escaped text).flatMap brokenChar = "<br>\n".toList.intercalate lines ∧
      lines.length = text.count '\n' + 1 ∧
      ∀ line ∈ lines, ∀ c ∈ line, c ∉ markupChars ∧ c ≠ '\n' := by
  induction text with
  | nil => exact ⟨[[]], rfl, rfl, by simp⟩
  | cons c rest ih =>
    obtain ⟨lines, joined, counted, clean⟩ := ih
    rw [escaped, List.flatMap_cons, ← escaped, List.flatMap_append, joined]
    cases lines with
    | nil => cases counted
    | cons line others =>
      by_cases ends : c = '\n'
      · subst ends
        refine ⟨[] :: line :: others, ?_, ?_, ?_⟩
        · rw [List.intercalate_cons_cons]
          rfl
        · rw [List.length_cons, counted, List.count_cons_self]
        · exact List.forall_mem_cons.mpr ⟨List.forall_mem_nil _, clean⟩
      · obtain ⟨here, there⟩ := List.forall_mem_cons.mp clean
        refine ⟨(escapedChar c ++ line) :: others, ?_, ?_, ?_⟩
        · rw [broken_escapedChar ends]
          cases others with
          | nil => rw [List.intercalate_singleton, List.intercalate_singleton]
          | cons next more =>
            rw [List.intercalate_cons_cons, List.intercalate_cons_cons]
            simp only [List.append_assoc]
        · rw [List.length_cons, ← List.length_cons (a := line), counted, List.count_cons_of_ne ends]
        · refine List.forall_mem_cons.mpr ⟨fun d member => ?_, there⟩
          rcases List.mem_append.mp member with written | kept
          · obtain ⟨quiet, line⟩ := escapedChar_clean c d written
            exact ⟨quiet, mt line ends⟩
          · exact here d kept

/-! ## The layout -/

/-- The layout of a document, with a slot for the sender and one for the body. -/
def layout : String :=
  layoutHead ++ "\x7bsender\x7d" ++ layoutMiddle ++ "\x7bbody\x7d" ++ layoutFoot

/-- A layout with its slots filled: a slot is a name between braces, and what is put in is not looked
at. The name of a slot is collected while it is open. -/
def filledSlots (entries : List (List Char × List Char)) : Option (List Char) → List Char → List Char
  | _, [] => []
  | none, c :: rest =>
    if c = '\x7b' then filledSlots entries (some []) rest else c :: filledSlots entries none rest
  | some name, c :: rest =>
    if c = '\x7d' then (entries.lookup name).getD [] ++ filledSlots entries none rest
    else filledSlots entries (some (name ++ [c])) rest

/-- The layout with its two slots filled. -/
def laidOut (heading content : List Char) : String :=
  String.ofList (filledSlots [("sender".toList, heading), ("body".toList, content)] none
    layout.toList)

theorem filledSlots_plain {entries : List (List Char × List Char)} {chars : List Char}
    (plain : '\x7b' ∉ chars) (rest : List Char) :
    filledSlots entries none (chars ++ rest) = chars ++ filledSlots entries none rest := by
  induction chars with
  | nil => rfl
  | cons c more ih =>
    obtain ⟨differs, others⟩ := not_or.mp (mt List.mem_cons.mpr plain)
    rw [List.cons_append, filledSlots, if_neg (Ne.symm differs), ih others, List.cons_append]

theorem not_mem_toList {c : Char} {chars : List Char} {text : String}
    (written : text = String.ofList chars) (missing : c ∉ chars) : c ∉ text.toList := by
  rwa [written, String.toList_ofList]

/-- Braces stand around the slots of the layout only. -/
theorem layout_plain :
    '\x7b' ∉ layoutHead.toList ∧ '\x7b' ∉ layoutMiddle.toList ∧ '\x7b' ∉ layoutFoot.toList := by
  unfold layoutHead layoutMiddle layoutFoot
  iterate 14 rw [String.toList_append]
  simp only [List.mem_append, not_or]
  and_intros <;> exact not_mem_toList rfl (by decide)

theorem toList_laidOut (heading content : List Char) :
    (laidOut heading content).toList =
      layoutHead.toList ++ (heading ++ (layoutMiddle.toList ++ (content ++ layoutFoot.toList))) := by
  obtain ⟨head, middle, foot⟩ := layout_plain
  generalize filled : [("sender".toList, heading), ("body".toList, content)] = entries
  have sender (rest : List Char) : filledSlots entries none ("\x7bsender\x7d".toList ++ rest) =
      heading ++ filledSlots entries none rest := filled ▸ rfl
  have body (rest : List Char) : filledSlots entries none ("\x7bbody\x7d".toList ++ rest) =
      content ++ filledSlots entries none rest := filled ▸ rfl
  rw [laidOut, String.toList_ofList, layout, filled, String.toList_append, String.toList_append,
    String.toList_append, String.toList_append, List.append_assoc, List.append_assoc,
    List.append_assoc, filledSlots_plain head, sender, filledSlots_plain middle, body,
    ← List.append_nil layoutFoot.toList, filledSlots_plain foot]
  rfl

/-- A document is its layout with the escaped sender and the body in markup. -/
theorem document_eq (body sender : String) :
    document body sender = laidOut (escaped sender.toList) (bodyMarkup body.toList) := by
  rw [← String.toList_inj, toList_laidOut, document]
  simp only [String.toList_append, String.toList_ofList, List.append_assoc]

/-- A text that goes on with a character that it does not have itself ends there. -/
theorem append_cons_inj {c : Char} {before front after back : List Char} (missing : c ∉ before)
    (absent : c ∉ front) (same : before ++ c :: after = front ++ c :: back) :
    before = front ∧ after = back := by
  induction before generalizing front with
  | nil =>
    cases front with
    | nil => exact ⟨rfl, (List.cons.inj same).2⟩
    | cons d more => exact absurd (List.mem_cons.mpr (.inl (List.cons.inj same).1)) absent
  | cons d rest ih =>
    cases front with
    | nil => exact absurd (List.mem_cons.mpr (.inl (List.cons.inj same).1.symm)) missing
    | cons e more =>
      obtain ⟨rfl, tails⟩ := List.cons.inj same
      obtain ⟨rfl, rfl⟩ := ih (fun here => missing (List.mem_cons_of_mem _ here))
        (fun here => absent (List.mem_cons_of_mem _ here)) tails
      exact ⟨rfl, rfl⟩

theorem exists_layoutMiddle : ∃ tail, layoutMiddle.toList = '<' :: tail := by
  have opening : "</h1>\n".toList = '<' :: "/h1>\n".toList := rfl
  have split : layoutMiddle.toList = "</h1>\n".toList ++ _ := String.toList_append
  rw [opening, List.cons_append] at split
  exact ⟨_, split⟩

/-- What stands in the slots can be told from a document, the sender having no markup. -/
theorem laidOut_inj {heading other content text : List Char} (plain : '<' ∉ heading)
    (also : '<' ∉ other) (same : laidOut heading content = laidOut other text) :
    heading = other ∧ content = text := by
  have lists := congrArg String.toList same
  obtain ⟨tail, middle⟩ := exists_layoutMiddle
  rw [toList_laidOut, toList_laidOut, middle, List.cons_append, List.cons_append] at lists
  obtain ⟨senders, bodies⟩ := append_cons_inj plain also (List.append_cancel_left lists)
  exact ⟨senders, List.append_cancel_right (List.append_cancel_left bodies)⟩

/-! ## Documents -/

/-- A document shows a text under a sender: it is the layout with its two slots filled. The first
slot has no markup, in the second one there are breaks between the lines of the text and no other
markup, and the slots read back as the sender and the text. -/
structure Shows (document text sender : String) (heading content : List Char) : Prop where
  filled : document = laidOut heading content
  quiet : ∀ c ∈ heading, c ∉ ['<', '>', '"', '\'']
  lines : ∃ lines, content = "<br>\n".toList.intercalate lines ∧
    lines.length = (replaced lineEnds text.toList).count '\n' + 1 ∧
    ∀ line ∈ lines, ∀ c ∈ line, c ∉ ['<', '>', '\n']
  sender_eq : decoded heading = sender.toList
  text_eq : decoded content = replaced lineEnds text.toList

theorem document_shows (text sender : String) :
    Shows (document text sender) text sender (escaped sender.toList) (bodyMarkup text.toList) where
  filled := document_eq text sender
  quiet := escaped_clean sender.toList
  lines := by
    obtain ⟨lines, joined, counted, clean⟩ := exists_lines (unixLines text.toList)
    rw [← unixLines_eq]
    refine ⟨lines, joined, counted, fun line member c among => ?_⟩
    obtain ⟨quiet, inside⟩ := clean line member c among
    simp only [markupChars, List.mem_cons, not_or] at quiet ⊢
    exact ⟨quiet.1, quiet.2.1, inside, List.not_mem_nil⟩
  sender_eq := decoded_escaped sender.toList
  text_eq := decoded_bodyMarkup text.toList

/-- The document of an e-mail is the layout with its slots filled, without any markup of the sender
and with nothing but line breaks in the body, and both can be read back from it. So different texts
have different documents, and what is filled into a template adds no markup. -/
theorem documents_show_texts :
    (∀ text sender : String, ∃ heading content,
      Shows (document text sender) text sender heading content) ∧
    (∀ text sender other name : String, document text sender = document other name →
      sender = name ∧ replaced lineEnds text.toList = replaced lineEnds other.toList) ∧
    ∀ (settings : Settings) (content : Content) (attributes : Fields), ∃ heading slot,
      Shows (Composed.ofEmail settings content attributes).content
        (Template.render (content.emailBody.getD "") attributes) (Composed.heading content)
        heading slot := by
  refine ⟨fun text sender => ⟨_, _, document_shows text sender⟩, ?_,
    fun settings content attributes => ⟨_, _, document_shows _ _⟩⟩
  intro text sender other name same
  rw [document_eq, document_eq] at same
  obtain ⟨senders, texts⟩ :=
    laidOut_inj (less_not_mem_escaped _) (less_not_mem_escaped _) same
  refine ⟨?_, ?_⟩
  · rw [← String.toList_inj, ← decoded_escaped sender.toList, senders, decoded_escaped]
  · rw [← decoded_bodyMarkup, texts, decoded_bodyMarkup]

end Herald.Email
