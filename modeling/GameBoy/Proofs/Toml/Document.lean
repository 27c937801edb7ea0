import GameBoy.Proofs.Toml.Scalar

/-!
# Documents are read back

The text of a document describes the table that the document is: `Table.ofText?_text`. The document
must be legible, that is, its keys need no quotes, none is given twice, and its scalars are read as
they are written. Reading goes through two stages, and so does the proof: the lines of the text are
read as statements (`readStatements_text`), and the statements build the table
(`ofStatements?_statements`).
-/

namespace GameBoy.Toml

/-! ## Legible documents -/

/-- The key can be written without quotes. -/
def IsBareKey (key : String) : Prop := key.toList ≠ [] ∧ ∀ c ∈ key.toList, isBare c

instance (key : String) : Decidable (IsBareKey key) :=
  decidable_of_iff (key.toList ≠ [] ∧ key.toList.all isBare)
    (and_congr_right fun _ => List.all_eq_true)

/-- The entries are read as they are written. -/
structure Entries.Legible (es : Entries) : Prop where
  /-- The keys need no quotes. -/
  bare : ∀ key ∈ es.map Prod.fst, IsBareKey key
  /-- The scalars are read as they are written. -/
  scalars : ∀ e ∈ es, e.2.Legible
  /-- No key is given twice. -/
  nodup : (es.map Prod.fst).Nodup

/-- The document is read as it is written. -/
structure Document.Legible (d : Document) : Prop where
  /-- The entries outside of all sections are legible. -/
  entries : d.entries.Legible
  /-- The names of sections need no quotes. -/
  bare : ∀ name ∈ d.sections.map Prod.fst, IsBareKey name
  /-- The entries of sections are legible. -/
  sections : ∀ s ∈ d.sections, Entries.Legible s.2
  /-- No section has the name of another or of an entry. -/
  nodup : (d.entries.map Prod.fst ++ d.sections.map Prod.fst).Nodup

/-- Entries are legible if their keys are bare and different, and their scalars are legible. -/
lemma Entries.Legible.of_keys {es : Entries} {keys : List String} (h : es.map Prod.fst = keys)
    (bare : ∀ key ∈ keys, IsBareKey key) (nodup : keys.Nodup)
    (scalars : ∀ e ∈ es, e.2.Legible) : es.Legible := by
  subst h
  exact ⟨bare, scalars, nodup⟩

/-- A document is legible if its keys are bare and different, and its parts are legible. -/
lemma Document.Legible.of_keys {d : Document} {keys : List String}
    (h : d.entries.map Prod.fst ++ d.sections.map Prod.fst = keys)
    (bare : ∀ key ∈ keys, IsBareKey key) (nodup : keys.Nodup)
    (scalars : ∀ e ∈ d.entries, e.2.Legible)
    (sections : ∀ s ∈ d.sections, Entries.Legible s.2) : d.Legible := by
  subst h
  rw [List.forall_mem_append] at bare
  exact ⟨⟨bare.1, scalars, (List.nodup_append.1 nodup).1⟩, bare.2, sections, nodup⟩

namespace Entries

@[simp] theorem table_nil : table [] = [] := rfl

@[simp] theorem table_cons (e : String × Scalar) (es : Entries) :
    table (e :: es) = (e.1, e.2.value) :: es.table := rfl

@[simp] theorem table_append (es fs : Entries) : table (es ++ fs) = es.table ++ fs.table :=
  List.map_append

end Entries

/-! ## Keys -/

/-- A character of a bare key is no mark. -/
lemma ne_of_isBare {c x : Char} (bare : isBare c) (mark : isBare x = false) : c ≠ x := by
  rintro rfl
  rw [bare] at mark
  cases mark

variable {key : String}

/-- The first character of a bare key. -/
lemma IsBareKey.exists_cons (h : IsBareKey key) : ∃ c cs, key.toList = c :: cs ∧ isBare c := by
  obtain ⟨some, bare⟩ := h
  obtain ⟨c, cs, e⟩ := List.exists_cons_of_ne_nil some
  exact ⟨c, cs, e, bare c (e ▸ List.mem_cons_self)⟩

/-- A bare key is read up to the first character that cannot stand in one. -/
lemma readKey_bare (h : IsBareKey key) {stop : Char} (mark : isBare stop = false)
    (rest : List Char) : readKey (key.toList ++ stop :: rest) = some (key, stop :: rest) := by
  obtain ⟨c, cs, e, first⟩ := h.exists_cons
  have read : (key.toList ++ stop :: rest).takeWhile isBare = key.toList := by
    rw [List.takeWhile_append_of_pos h.2, List.takeWhile_cons_of_neg (by rw [mark]; decide),
      List.append_nil]
  have left : (key.toList ++ stop :: rest).dropWhile isBare = stop :: rest := by
    rw [List.dropWhile_append_of_pos h.2, List.dropWhile_cons_of_neg (by rw [mark]; decide)]
  unfold readKey
  split
  · next quoted =>
    rw [e] at quoted
    exact absurd (List.cons.inj quoted).1 (ne_of_isBare first (by decide))
  · next quoted =>
    rw [e] at quoted
    exact absurd (List.cons.inj quoted).1 (ne_of_isBare first (by decide))
  · rw [read, left]
    split
    · next none => exact absurd none h.1
    · rw [String.ofList_toList]

/-- A bare key without a dot behind it is a whole path. -/
lemma readPath_bare (h : IsBareKey key) {stop x : Char} (mark : isBare stop = false)
    {rest more : List Char} (next : skipBlanks (stop :: rest) = x :: more) (noDot : x ≠ '.') :
    readPath (key.toList ++ stop :: rest) = some ([key], stop :: rest) := by
  have parts : readParts (key.toList ++ stop :: rest) = some ([key], stop :: rest) := by
    rw [readParts, readKey_bare h mark]
    simp only [next]
    split
    · next dot => exact absurd (List.cons.inj dot).1 noDot
    · rfl
  have short : [key].length < depthLimit := by
    rw [List.length_singleton]
    decide
  rw [readPath, parts]
  exact if_pos short

/-! ## Lines -/

/-- What the entries say, line by line. -/
def Entries.statements (es : Entries) : List Statement := es.map fun e => .assign [e.1] e.2.value

/-- A line that does not start with a blank, a comment or its end is not empty. -/
lemma readRest_cons {c : Char} (h : c ∉ [' ', '\t', '#', '\n', '\r']) (cs : List Char) :
    skipBlanks (c :: cs) = c :: cs ∧ readRest (c :: cs) = none := by
  simp only [List.mem_cons, List.not_mem_nil, or_false, not_or] at h
  obtain ⟨space, tab, comment, feed, carriage⟩ := h
  have start : skipBlanks (c :: cs) = c :: cs := skipBlanks_cons space tab cs
  refine ⟨start, ?_⟩
  rw [readRest, start]
  unfold readLineEnd
  split
  · next e => exact absurd (List.cons.inj e).1 comment
  · split
    · next e => cases e
    · next e => exact absurd (List.cons.inj e).1 feed
    · next e => exact absurd (List.cons.inj e).1 carriage
    · rfl

/-- An entry is read as an assignment. -/
lemma readStatement_entry (bare : IsBareKey key) {v : Scalar} (legible : v.Legible)
    (rest : List Char) :
    readStatement (key.toList ++ ' ' :: '=' :: ' ' :: (v.text.toList ++ '\n' :: rest)) =
      some (.assign [key] v.value, '\n' :: rest) := by
  obtain ⟨c, cs, e, first⟩ := bare.exists_cons
  have equals : skipBlanks (' ' :: '=' :: ' ' :: (v.text.toList ++ '\n' :: rest)) =
      '=' :: ' ' :: (v.text.toList ++ '\n' :: rest) := rfl
  have path := readPath_bare bare (by decide) equals (by decide)
  have value : skipBlanks (' ' :: (v.text.toList ++ '\n' :: rest)) =
      v.text.toList ++ '\n' :: rest := v.skipBlanks_text _
  have noHeader (cs' : List Char) :
      key.toList ++ ' ' :: '=' :: ' ' :: (v.text.toList ++ '\n' :: rest) ≠ '[' :: cs' := by
    rw [e]
    intro e'
    exact ne_of_isBare first (by decide) (List.cons.inj e').1
  unfold readStatement
  split
  · next e' => exact absurd e' (noHeader _)
  · next e' => exact absurd e' (noHeader _)
  · rw [path]
    simp only [equals, value]
    rw [Scalar.readValue_text _ _ _ legible]
    rfl

/-- The line of an entry is read as an assignment. -/
lemma readLine_entry (bare : IsBareKey key) {v : Scalar} (legible : v.Legible)
    (rest : List Char) :
    readLine (key.toList ++ ' ' :: '=' :: ' ' :: (v.text.toList ++ '\n' :: rest)) =
      some ([.assign [key] v.value], rest) := by
  obtain ⟨c, cs, e, first⟩ := bare.exists_cons
  have mark : c ∉ [' ', '\t', '#', '\n', '\r'] := not_mem_of_outside (by decide) first
  have statement := readStatement_entry bare legible rest
  rw [e, List.cons_append] at statement ⊢
  obtain ⟨start, some⟩ := readRest_cons mark
    (cs ++ ' ' :: '=' :: ' ' :: (v.text.toList ++ '\n' :: rest))
  rw [readLine, some, start, statement]
  rfl

/-- A bracket in front of a key is a header of a table. -/
lemma readStatement_header (bare : IsBareKey key) (rest : List Char) :
    readStatement ('[' :: (key.toList ++ ']' :: '\n' :: rest)) =
      some (.header .table [key], '\n' :: rest) := by
  obtain ⟨c, cs, e, first⟩ := bare.exists_cons
  have bracket : skipBlanks (']' :: '\n' :: rest) = ']' :: '\n' :: rest := rfl
  have path := readPath_bare bare (by decide) bracket (by decide)
  have name : skipBlanks (key.toList ++ ']' :: '\n' :: rest) =
      key.toList ++ ']' :: '\n' :: rest := by
    rw [e]
    exact skipBlanks_cons (ne_of_isBare first (by decide)) (ne_of_isBare first (by decide)) _
  have single : readStatement ('[' :: (key.toList ++ ']' :: '\n' :: rest)) =
      readHeader .table (key.toList ++ ']' :: '\n' :: rest) := by
    rw [e]
    unfold readStatement
    split
    · next e' =>
      have bracket := (List.cons.inj (List.cons.inj e').2).1
      exact absurd bracket (ne_of_isBare first (by decide))
    · next e' => rw [(List.cons.inj e').2]
    · next other => exact absurd rfl (other _)
  rw [single, readHeader, name, path]
  rfl

/-- The line of a header is read as a header. -/
lemma readLine_header (bare : IsBareKey key) (rest : List Char) :
    readLine ('[' :: (key.toList ++ ']' :: '\n' :: rest)) = some ([.header .table [key]], rest) := by
  obtain ⟨start, some⟩ := readRest_cons (c := '[') (by decide) (key.toList ++ ']' :: '\n' :: rest)
  rw [readLine, some, start, readStatement_header bare]
  rfl

/-- A line that is read goes in front of the rest. -/
lemma readStatements_of_readLine {cs rest : List Char} {line : List Statement}
    (read : readLine cs = some (line, rest)) (shorter : rest.length < cs.length) :
    readStatements cs = (readStatements rest).map (line ++ ·) := by
  have more : cs.isEmpty = false := by
    rcases cs with _ | ⟨c, cs⟩
    · exact absurd shorter (Nat.not_lt_zero _)
    · rfl
  rw [readStatements, more, read]
  exact if_pos shorter

/-- The lines of entries are read as assignments. -/
lemma readStatements_entries {es : Entries} (legible : es.Legible) (rest : List Char) :
    readStatements (es.text.toList ++ rest) = (readStatements rest).map (es.statements ++ ·) := by
  obtain ⟨bare, scalars, -⟩ := legible
  induction es with
  | nil => exact Option.map_id'.symm
  | cons e es ih =>
    obtain ⟨first, others⟩ := List.forall_mem_cons.1 bare
    obtain ⟨scalar, scalars⟩ := List.forall_mem_cons.1 scalars
    have written : (Entries.text (e :: es)).toList ++ rest =
        e.1.toList ++ ' ' :: '=' :: ' ' :: (e.2.text.toList ++ '\n' ::
          ((Entries.text es).toList ++ rest)) := by
      simp [Entries.text]
    rw [written, readStatements_of_readLine (readLine_entry first scalar _) (by simp; omega),
      ih others scalars, Option.map_map]
    rfl

/-- The text of sections. -/
def sectionsText (ss : List (String × Entries)) : String :=
  ss.foldr (fun s rest => "\n[" ++ s.1 ++ "]\n" ++ Entries.text s.2 ++ rest) ""

/-- What sections say, line by line. -/
def sectionsStatements (ss : List (String × Entries)) : List Statement :=
  ss.flatMap fun s => .header .table [s.1] :: Entries.statements s.2

/-- The lines of sections are read as headers and assignments. -/
lemma readStatements_sections {ss : List (String × Entries)}
    (bare : ∀ name ∈ ss.map Prod.fst, IsBareKey name)
    (legible : ∀ s ∈ ss, Entries.Legible s.2) :
    readStatements (sectionsText ss).toList = some (sectionsStatements ss) := by
  induction ss with
  | nil =>
    rw [sectionsText, readStatements]
    rfl
  | cons s ss ih =>
    obtain ⟨name, names⟩ := List.forall_mem_cons.1 bare
    obtain ⟨entries, others⟩ := List.forall_mem_cons.1 legible
    have written : (sectionsText (s :: ss)).toList =
        '\n' :: '[' :: (s.1.toList ++ ']' :: '\n' ::
          ((Entries.text s.2).toList ++ (sectionsText ss).toList)) := by
      simp [sectionsText]
    have empty (cs : List Char) : readLine ('\n' :: cs) = some ([], cs) := rfl
    rw [written, readStatements_of_readLine (empty _) (by simp),
      readStatements_of_readLine (readLine_header name _) (by simp; omega),
      readStatements_entries entries, ih names others]
    rfl

/-- What a document says, line by line. -/
def Document.statements (d : Document) : List Statement :=
  d.entries.statements ++ sectionsStatements d.sections

/-- The lines of a document are read as what they say. -/
theorem readStatements_text {d : Document} (legible : d.Legible) :
    readStatements d.text.toList = some d.statements := by
  have written : d.text.toList = d.entries.text.toList ++ (sectionsText d.sections).toList := by
    rw [Document.text, String.toList_append]
    rfl
  rw [written, readStatements_entries legible.entries,
    readStatements_sections legible.bare legible.sections]
  rfl

/-! ## Tables -/

/-- Entries under construction. -/
def Entries.branches (es : Entries) : List (String × Branch) :=
  es.map fun e => (e.1, .leaf e.2.value)

/-- Sections under construction. -/
def sectionsBranches (ss : List (String × Entries)) : List (String × Branch) :=
  ss.map fun s => (s.1, .fork .headed (Entries.branches s.2))

namespace Branch

variable {t : List (String × Branch)} (fresh : key ∉ t.map Prod.fst)

include fresh

/-- A key that has not been given stands for nothing yet. -/
lemma lookup_eq_none : t.lookup key = none := by
  rw [List.lookup_eq_none_iff]
  intro entry member
  rw [bne_iff_ne]
  rintro rfl
  exact fresh (List.mem_map_of_mem member)

/-- A new key is added at the end. -/
lemma assign?_of_fresh (v : Value) : assign? [key] v t = some (t ++ [(key, leaf v)]) := by
  rw [assign?, lookup_eq_none fresh]

/-- A new table is opened at the end. -/
lemma openTable?_of_fresh : openTable? .table [key] t = some (t ++ [(key, fork .headed [])]) := by
  unfold openTable?
  rw [lookup_eq_none fresh]

/-- The last table is changed in its place. -/
lemma within?_last (f : List (String × Branch) → Option (List (String × Branch)))
    (origin : Origin) (s : List (String × Branch)) :
    within? [key] f (t ++ [(key, fork origin s)]) =
      (f s).map fun s => t ++ [(key, fork origin s)] := by
  have found : (t ++ [(key, fork origin s)]).lookup key = some (fork origin s) := by
    rw [List.lookup_append, lookup_eq_none fresh, List.lookup_cons_self]
    rfl
  have others (b : Branch) : put key b t = t := by
    refine (List.map_congr_left fun entry member => ?_).trans (List.map_id t)
    refine if_neg ?_
    rintro rfl
    exact fresh (List.mem_map_of_mem member)
  have replaced (b : Branch) : put key b (t ++ [(key, fork origin s)]) = t ++ [(key, b)] := by
    rw [put, List.map_append, ← put, others]
    simp
  rw [within?, found]
  simp only [within?, replaced]

end Branch

namespace Draft

/-- Statements are followed one after the other. -/
lemma followAll?_append (d : Draft) (ss ts : List Statement) :
    d.followAll? (ss ++ ts) = (d.followAll? ss).bind fun d => d.followAll? ts := by
  induction ss generalizing d with
  | nil => rfl
  | cons s ss ih =>
    rw [List.cons_append, followAll?, followAll?]
    cases d.follow? s with
    | none => rfl
    | some d => exact ih d

/-- Assignments extend the table in which they are made. The rest of the draft is a frame around
it. -/
lemma followAll?_entries (path : List String)
    (frame : List (String × Branch) → List (String × Branch))
    (inside : ∀ f t, Branch.within? path f (frame t) = (f t).map frame) {es : Entries}
    {t : List (String × Branch)} (nodup : (t.map Prod.fst ++ es.map Prod.fst).Nodup) :
    followAll? ⟨path, frame t⟩ es.statements = some ⟨path, frame (t ++ es.branches)⟩ := by
  induction es generalizing t with
  | nil =>
    rw [Entries.branches, List.map_nil, List.append_nil]
    rfl
  | cons e es ih =>
    have fresh : e.1 ∉ t.map Prod.fst := by
      intro member
      exact (List.nodup_append.1 nodup).2.2 _ member _ List.mem_cons_self rfl
    have extended : ((t ++ [(e.1, Branch.leaf e.2.value)]).map Prod.fst ++
        es.map Prod.fst).Nodup := by
      simpa using nodup
    have first : follow? ⟨path, frame t⟩ (.assign [e.1] e.2.value) =
        some ⟨path, frame (t ++ [(e.1, .leaf e.2.value)])⟩ := by
      rw [follow?, inside, Branch.assign?_of_fresh fresh]
      rfl
    rw [Entries.statements, List.map_cons, followAll?, first]
    refine (ih extended).trans ?_
    rw [List.append_assoc]
    rfl

/-- A section adds its table. -/
lemma followAll?_section {path : List String} {t : List (String × Branch)} {es : Entries}
    (fresh : key ∉ t.map Prod.fst) (nodup : (es.map Prod.fst).Nodup) :
    followAll? ⟨path, t⟩ (.header .table [key] :: es.statements) =
      some ⟨[key], t ++ [(key, .fork .headed es.branches)]⟩ := by
  have opened : follow? ⟨path, t⟩ (.header .table [key]) =
      some ⟨[key], t ++ [(key, .fork .headed [])]⟩ := by
    rw [follow?, Branch.openTable?_of_fresh fresh]
    rfl
  rw [followAll?, opened]
  exact followAll?_entries [key] (fun s => t ++ [(key, .fork .headed s)])
    (fun f s => Branch.within?_last fresh f .headed s) (t := []) nodup

/-- Sections add their tables. -/
lemma followAll?_sections (path : List String) {t : List (String × Branch)}
    {ss : List (String × Entries)} (legible : ∀ s ∈ ss, Entries.Legible s.2)
    (nodup : (t.map Prod.fst ++ ss.map Prod.fst).Nodup) :
    ∃ last, followAll? ⟨path, t⟩ (sectionsStatements ss) =
      some ⟨last, t ++ sectionsBranches ss⟩ := by
  induction ss generalizing path t with
  | nil =>
    refine ⟨path, ?_⟩
    rw [sectionsBranches, List.map_nil, List.append_nil]
    rfl
  | cons s ss ih =>
    obtain ⟨entries, others⟩ := List.forall_mem_cons.1 legible
    have fresh : s.1 ∉ t.map Prod.fst := by
      intro member
      exact (List.nodup_append.1 nodup).2.2 _ member _ List.mem_cons_self rfl
    obtain ⟨last, rest⟩ := ih [s.1]
      (t := t ++ [(s.1, .fork .headed (Entries.branches s.2))]) others (by simpa using nodup)
    refine ⟨last, ?_⟩
    rw [sectionsStatements, List.flatMap_cons, followAll?_append,
      followAll?_section fresh entries.nodup]
    refine rest.trans ?_
    rw [List.append_assoc]
    rfl

end Draft

namespace Branch

lemma table_append (s t : List (String × Branch)) : table (s ++ t) = table s ++ table t := by
  induction s with
  | nil => rfl
  | cons entry s ih =>
    rw [List.cons_append, table, table, ih]
    rfl

lemma table_branches (es : Entries) : table es.branches = es.table := by
  induction es with
  | nil => rfl
  | cons e es ih => exact congrArg (_ :: ·) ih

lemma table_sectionsBranches (ss : List (String × Entries)) :
    table (sectionsBranches ss) = ss.map fun s => (s.1, .table (Entries.table s.2)) := by
  induction ss with
  | nil => rfl
  | cons s ss ih =>
    rw [sectionsBranches, List.map_cons, table, value, table_branches, List.map_cons, ← ih]
    rfl

end Branch

/-- The statements of a document describe the table that it is. -/
theorem ofStatements?_statements {d : Document} (legible : d.Legible) :
    Table.ofStatements? d.statements = some d.table := by
  have entries : Draft.followAll? ⟨[], []⟩ d.entries.statements =
      some ⟨[], d.entries.branches⟩ :=
    Draft.followAll?_entries [] id
      (fun f t => (congrFun Option.map_id (f t)).symm) (t := []) legible.entries.nodup
  have keys : d.entries.branches.map Prod.fst = d.entries.map Prod.fst := by
    rw [Entries.branches, List.map_map]
    rfl
  obtain ⟨last, sections⟩ := Draft.followAll?_sections []
    (t := d.entries.branches) legible.sections (by rw [keys]; exact legible.nodup)
  have draft : Draft.followAll? ⟨[], []⟩ d.statements =
      some ⟨last, d.entries.branches ++ sectionsBranches d.sections⟩ := by
    rw [Document.statements, Draft.followAll?_append, entries]
    exact sections
  rw [Table.ofStatements?, draft, Option.map_some, Branch.table_append, Branch.table_branches,
    Branch.table_sectionsBranches]
  rfl

/-- A document does not start with a byte order mark. -/
lemma toList_text_ne_mark {d : Document} (legible : d.Legible) (cs : List Char) :
    d.text.toList ≠ '\uFEFF' :: cs := by
  obtain ⟨entries, sections⟩ := d
  rcases entries with _ | ⟨e, entries⟩
  · rcases sections with _ | ⟨s, sections⟩
    · intro e
      cases e
    · simp [Document.text, Entries.text]
  · obtain ⟨c, key, written, first⟩ := (legible.entries.bare e.1 List.mem_cons_self).exists_cons
    simp [Document.text, Entries.text, written, ne_of_isBare first (x := '\uFEFF') (by decide)]

/-- **A legible document is read back.** Its text describes the table that it is. -/
theorem Table.ofText?_text {d : Document} (legible : d.Legible) :
    Table.ofText? d.text = some d.table := by
  have statements := readStatements_text legible
  have table := ofStatements?_statements legible
  unfold Table.ofText?
  split
  · next cs e => exact absurd e (toList_text_ne_mark legible cs)
  · simp only [statements]
    exact table

end GameBoy.Toml
