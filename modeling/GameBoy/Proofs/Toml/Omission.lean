import GameBoy.Proofs.Toml.Document

/-!
# Leaving keys out of a text

A document is written line by line, and each line belongs to a key: the line of an entry to the
entry's key, and the header of a section, with the empty line before it, to the name of the section.
`Document.textWithout` is the text that is left when the lines of some keys are taken out, where a
section goes as a whole with its name. It is again the text of a document (`textWithout_eq`), and
that document is as legible as the one before.
-/

namespace GameBoy.Toml

/-- A line of a text. The header of a section counts as one with the empty line before it. -/
structure Line where
  /-- The key to which the line belongs, behind the name of the section in which it stands. -/
  path : List String
  /-- The line as it is written. -/
  text : String

/-- A key, or the section in which it stands, is among the given ones. -/
def isUnder (gone : List String → Bool) (path : List String) : Bool :=
  (List.range path.length).any fun n => gone (path.take (n + 1))

/-- The lines of entries in a section, or outside of all sections. -/
def Entries.lines (es : Entries) (names : List String) : List Line :=
  es.map fun e => ⟨names ++ [e.1], e.1 ++ " = " ++ e.2.text ++ "\n"⟩

namespace Document

variable (d : Document) (gone : List String → Bool)

/-- The lines of a document. -/
def lines : List Line :=
  d.entries.lines [] ++
    d.sections.flatMap fun s => ⟨[s.1], "\n[" ++ s.1 ++ "]\n"⟩ :: Entries.lines s.2 [s.1]

/-- The text of a document without the lines of some keys. -/
def textWithout : String :=
  String.join ((d.lines.filter fun l => !isUnder gone l.path).map Line.text)

/-- A document without some keys. -/
def without : Document where
  entries := d.entries.filter fun e => !gone [e.1]
  sections := (d.sections.filter fun s => !gone [s.1]).map fun s =>
    (s.1, s.2.filter fun e => !gone [s.1, e.1])

end Document

section Lines

variable (gone : List String → Bool)

lemma isUnder_singleton (key : String) : isUnder gone [key] = gone [key] := by
  simp [isUnder]

lemma isUnder_pair (name key : String) :
    isUnder gone [name, key] = (gone [name] || gone [name, key]) := by
  simp [isUnder, List.range_succ]

/-- Taking out lines of entries is taking out the entries. -/
lemma join_lines (es : Entries) (names : List String) (keep : List String → Bool) :
    String.join (((es.lines names).filter fun l => keep l.path).map Line.text) =
      Entries.text (es.filter fun e => keep (names ++ [e.1])) := by
  induction es with
  | nil => rfl
  | cons e es ih =>
    rw [Entries.lines, List.map_cons, ← Entries.lines, List.filter_cons, List.filter_cons]
    by_cases kept : keep (names ++ [e.1])
    · rw [if_pos kept, if_pos kept, List.map_cons, String.join_cons, ih]
      rfl
    · rw [if_neg kept, if_neg kept, ih]

/-- Taking out lines of sections is taking out the sections and their entries. -/
lemma join_sections (ss : List (String × Entries)) :
    String.join (((ss.flatMap fun s =>
        ⟨[s.1], "\n[" ++ s.1 ++ "]\n"⟩ :: Entries.lines s.2 [s.1]).filter fun l =>
          !isUnder gone l.path).map Line.text) =
      sectionsText ((ss.filter fun s => !gone [s.1]).map fun s =>
        (s.1, s.2.filter fun e => !gone [s.1, e.1])) := by
  induction ss with
  | nil => rfl
  | cons s ss ih =>
    have block := join_lines s.2 [s.1] fun path => !isUnder gone path
    simp only [List.singleton_append, isUnder_pair] at block
    rw [List.flatMap_cons, List.filter_append, List.map_append, String.join_append, ih,
      List.filter_cons, List.filter_cons, isUnder_singleton]
    by_cases whole : gone [s.1]
    · rw [if_neg (by simp [whole]), if_neg (by simp [whole]), block]
      have none : (s.2.filter fun e => !(gone [s.1] || gone [s.1, e.1])) = [] :=
        List.filter_eq_nil_iff.2 fun e _ => by simp [whole]
      rw [none]
      exact String.empty_append
    · rw [if_pos (by simp [whole]), if_pos (by simp [whole]), List.map_cons, String.join_cons,
        block, Bool.eq_false_iff.2 whole]
      rfl

end Lines

/-- Some of legible entries are legible. -/
lemma Entries.Legible.filter {es : Entries} (legible : es.Legible)
    (keep : String × Scalar → Bool) : Entries.Legible (es.filter keep) where
  bare key member := legible.bare key ((List.filter_sublist.map Prod.fst).subset member)
  scalars e member := legible.scalars e (List.mem_filter.1 member).1
  nodup := legible.nodup.sublist (List.filter_sublist.map Prod.fst)

namespace Document

variable (d : Document) (gone : List String → Bool)

/-- The text that is left is that of the document that is left. -/
theorem textWithout_eq : d.textWithout gone = (d.without gone).text := by
  have entries := join_lines d.entries [] fun path => !isUnder gone path
  simp only [List.nil_append, isUnder_singleton] at entries
  rw [textWithout, lines, List.filter_append, List.map_append, String.join_append, entries,
    join_sections]
  rfl

/-- Nothing is left out of the whole text. -/
lemma textWithout_nothing : d.textWithout (fun _ => false) = d.text := by
  have same : d.without (fun _ => false) = d := by
    have all {α : Type} (xs : List α) : xs.filter (fun _ => !false) = xs :=
      List.filter_eq_self.2 fun _ _ => rfl
    simp only [without, all, List.map_id']
  rw [textWithout_eq, same]

variable {d}

/-- What is left of a legible document is legible. -/
theorem Legible.without (legible : d.Legible) : (d.without gone).Legible := by
  obtain ⟨entries, bare, sections, nodup⟩ := legible
  have names : (d.without gone).sections.map Prod.fst =
      (d.sections.filter fun s => !gone [s.1]).map Prod.fst := by
    rw [Document.without, List.map_map]
    rfl
  have kept : ((d.without gone).sections.map Prod.fst).Sublist (d.sections.map Prod.fst) := by
    rw [names]
    exact List.filter_sublist.map Prod.fst
  constructor
  · exact entries.filter _
  · intro name member
    exact bare name (kept.subset member)
  · intro s member
    obtain ⟨s', found, rfl⟩ := List.mem_map.1 member
    exact (sections s' (List.mem_filter.1 found).1).filter _
  · exact nodup.sublist ((List.filter_sublist.map Prod.fst).append kept)

end Document

end GameBoy.Toml
