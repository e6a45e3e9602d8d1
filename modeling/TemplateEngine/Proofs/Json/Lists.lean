import TemplateEngine.Proofs.Json.Strings

/-! # Texts of documents

A text is the text of a document if it is read as that document, whatever follows it. With any
blanks between them, the texts of items and of fields make the text of an array and of an
object. -/

namespace TemplateEngine.Json

/-- No number stands in the document, and every string and key in it can be read. -/
inductive IsTextual : Json → Prop
  | null : IsTextual .null
  | bool (value : Bool) : IsTextual (.bool value)
  | string (text : String) : IsTextual (.string (some text))
  | array {items : List Json} (hitems : ∀ item ∈ items, IsTextual item) : IsTextual (.array items)
  | object {fields : List (Option String × Json)}
      (hkeys : ∀ field ∈ fields, ∃ key, field.1 = some key)
      (hvalues : ∀ field ∈ fields, IsTextual field.2) : IsTextual (.object fields)

def IsGap (gap : List Char) : Prop :=
  ∀ c ∈ gap, isBlank c = true

theorem IsGap.nil : IsGap [] := by
  simp [IsGap]

theorem IsGap.blank : IsGap [' '] := by
  simp [IsGap, isBlank]

theorem isGap_newLine (level : Nat) : IsGap (newLine level) := by
  intro c hc
  rcases List.mem_cons.mp hc with rfl | hspace
  · rfl
  · rw [List.eq_of_mem_replicate hspace]
    rfl

theorem skipBlanks_cons {c : Char} (h : isBlank c = false) (s : List Char) :
    skipBlanks (c :: s) = c :: s :=
  List.dropWhile_cons_of_neg (by simp [h])

theorem IsGap.skipBlanks_append {gap : List Char} (h : IsGap gap) (s : List Char) :
    skipBlanks (gap ++ s) = skipBlanks s :=
  List.dropWhile_append_of_pos h

theorem skipBlanks_skipBlanks (s : List Char) : skipBlanks (skipBlanks s) = skipBlanks s := by
  induction s with
  | nil => rfl
  | cons c s ih =>
    cases hc : isBlank c with
    | false => rw [skipBlanks_cons hc, skipBlanks_cons hc]
    | true =>
      have hskip : skipBlanks (c :: s) = skipBlanks s := List.dropWhile_cons_of_pos hc
      rw [hskip, ih]

/-- The text starts neither with a blank nor with the end of an array or object. -/
def StartsMember (text : List Char) : Prop :=
  ∃ c s, text = c :: s ∧ isBlank c = false ∧ c ≠ ']' ∧ c ≠ '\x7d'

theorem skipBlanks_of_startsMember {text : List Char} (h : StartsMember text) (rest : List Char) :
    skipBlanks (text ++ rest) = text ++ rest := by
  obtain ⟨c, s, rfl, hblank, -, -⟩ := h
  exact skipBlanks_cons hblank (s ++ rest)

section

variable {α : Type}

/-- A list with commas between its members and a gap before each of them. -/
def separated (gap : List Char) (write : α → List Char) : List α → List Char
  | [] => []
  | [first] => gap ++ write first
  | first :: others => gap ++ (write first ++ ',' :: separated gap write others)

variable {gap : List Char} {write : α → List Char}

theorem separated_cons_cons (first second : α) (others : List α) :
    separated gap write (first :: second :: others) =
      gap ++ (write first ++ ',' :: separated gap write (second :: others)) := rfl

theorem length_le_of_mem_separated {members : List α} {member : α} (h : member ∈ members) :
    (write member).length ≤ (separated gap write members).length := by
  induction members with
  | nil => cases h
  | cons first others ih =>
    cases others with
    | nil =>
      rw [List.mem_singleton.mp h, separated, List.length_append]
      omega
    | cons second others =>
      rw [separated_cons_cons]
      simp only [List.length_append, List.length_cons]
      rcases List.mem_cons.mp h with rfl | hmem
      · omega
      · have hle := ih hmem
        omega

theorem length_le_separated (gap : List Char) (write : α → List Char) (members : List α) :
    members.length ≤ (separated gap write members).length + 1 := by
  induction members with
  | nil => exact Nat.zero_le _
  | cons first others ih =>
    cases others with
    | nil => simp
    | cons second others =>
      rw [separated_cons_cons]
      simp only [List.length_append, List.length_cons] at ih ⊢
      omega

/-- After the gap before it, a list goes on for as many characters as it has more members. -/
theorem exists_skipBlanks_separated (hgap : IsGap gap) {first : α}
    (h : StartsMember (write first)) (others : List α) (rest : List Char) :
    ∃ c s, skipBlanks (separated gap write (first :: others) ++ rest) = c :: s ∧ c ≠ ']' ∧
      c ≠ '\x7d' ∧ others.length ≤ s.length := by
  obtain ⟨c, s, hfirst, hblank, hbracket, hbrace⟩ := h
  cases others with
  | nil =>
    refine ⟨c, s ++ rest, ?_, hbracket, hbrace, Nat.zero_le _⟩
    rw [separated, List.append_assoc, hgap.skipBlanks_append, hfirst]
    exact skipBlanks_cons hblank _
  | cons second others =>
    refine ⟨c, s ++ ',' :: separated gap write (second :: others) ++ rest, ?_, hbracket, hbrace, ?_⟩
    · rw [separated_cons_cons, List.append_assoc, hgap.skipBlanks_append, hfirst]
      exact skipBlanks_cons hblank _
    · have hlength := length_le_separated gap write (second :: others)
      simp only [List.length_append, List.length_cons] at hlength ⊢
      omega

/-- Members separated by commas, up to the closing character. -/
def readUntil (close : Char) (one : Reader α) : (fuel : Nat) → Reader (List α)
  | 0, _ => none
  | fuel + 1, s => do
    let (first, s) ← one s
    match skipBlanks s with
    | [] => none
    | c :: s =>
      if c = close then some ([first], s)
      else if c = ',' then do
        let (others, s) ← readUntil close one fuel s
        some (first :: others, s)
      else none

theorem readUntil_skipBlanks {close : Char} {one : Reader α}
    (hone : ∀ s, one (skipBlanks s) = one s) (fuel : Nat) (s : List Char) :
    readUntil close one fuel (skipBlanks s) = readUntil close one fuel s := by
  cases fuel with
  | zero => rfl
  | succ fuel => rw [readUntil, readUntil, hone]

variable {close : Char} {one : Reader α} {last : List Char}

/-- A list is read if each of its members is read after the gap before it. -/
theorem readUntil_separated {members : List α}
    (hread : ∀ member ∈ members, ∀ rest, one (gap ++ (write member ++ rest)) = some (member, rest))
    (hblank : isBlank close = false) (hcomma : close ≠ ',') (hne : members ≠ [])
    (hlast : IsGap last) (rest : List Char) {fuel : Nat} (hfuel : members.length ≤ fuel) :
    readUntil close one fuel (separated gap write members ++ (last ++ close :: rest)) =
      some (members, rest) := by
  induction members generalizing fuel with
  | nil => exact absurd rfl hne
  | cons first others ih =>
    rw [List.length_cons] at hfuel
    obtain ⟨fuel, rfl⟩ : ∃ n, fuel = n + 1 := ⟨fuel - 1, by omega⟩
    have hfirst := hread first List.mem_cons_self
    cases others with
    | nil =>
      have hskip : skipBlanks (last ++ close :: rest) = close :: rest :=
        (hlast.skipBlanks_append _).trans (skipBlanks_cons hblank rest)
      rw [readUntil, separated, List.append_assoc, hfirst]
      simp only [Option.bind_eq_bind, Option.bind_some, hskip, if_true]
    | cons second others =>
      have hothers := ih (fun member hmem => hread member (List.mem_cons_of_mem _ hmem))
        (List.cons_ne_nil _ _) (Nat.le_of_succ_le_succ hfuel)
      rw [readUntil, separated_cons_cons, List.append_assoc, List.append_assoc, hfirst,
        List.cons_append]
      simp only [Option.bind_eq_bind, Option.bind_some, skipBlanks_cons (c := ',') rfl,
        if_neg hcomma.symm, if_true, hothers]

variable (one) in
/-- A list does not look like the end of an empty one, and is read with as much fuel as it is
long. -/
theorem readUntil_separated_length {first : α} {others : List α}
    (hclose : close = ']' ∨ close = '\x7d') (hgap : IsGap gap) (hlast : IsGap last)
    (hstart : StartsMember (write first))
    (hread : ∀ member ∈ first :: others, ∀ rest,
      one (gap ++ (write member ++ rest)) = some (member, rest)) (rest : List Char) :
    (∀ rest', skipBlanks (separated gap write (first :: others) ++ (last ++ close :: rest)) ≠
        close :: rest') ∧
      readUntil close one (skipBlanks (separated gap write (first :: others) ++
          (last ++ close :: rest))).length
        (separated gap write (first :: others) ++ (last ++ close :: rest)) =
        some (first :: others, rest) := by
  obtain ⟨c, s, hskip, hbracket, hbrace, hlength⟩ :=
    exists_skipBlanks_separated hgap hstart others (last ++ close :: rest)
  have hblank : isBlank close = false := by rcases hclose with rfl | rfl <;> rfl
  have hcomma : close ≠ ',' := by rcases hclose with rfl | rfl <;> decide
  rw [hskip]
  refine ⟨fun rest' heq => ?_, readUntil_separated hread hblank hcomma (List.cons_ne_nil _ _) hlast
    rest (Nat.succ_le_succ hlength)⟩
  rcases hclose with rfl | rfl
  · exact hbracket (List.cons.inj heq).1
  · exact hbrace (List.cons.inj heq).1

end

theorem readItems_eq_readUntil (item : Reader Json) (fuel : Nat) (s : List Char) :
    readItems item fuel s = readUntil ']' (fun s => item (skipBlanks s)) fuel s := by
  induction fuel generalizing s with
  | zero => rfl
  | succ fuel ih =>
    rw [readItems, readUntil]
    congr
    funext ⟨first, s⟩
    dsimp only
    split
    · next rest heq => rw [heq]; rfl
    · next rest heq =>
      rw [heq, ih rest]
      rfl
    · next hclose hcomma =>
      cases hskip : skipBlanks s with
      | nil => rfl
      | cons c rest =>
        have hc : c ≠ ']' := fun heq => hclose rest (heq ▸ hskip)
        have hc' : c ≠ ',' := fun heq => hcomma rest (heq ▸ hskip)
        exact ((if_neg hc).trans (if_neg hc')).symm

theorem readFields_eq_readUntil (item : Reader Json) (fuel : Nat) (s : List Char) :
    readFields item fuel s = readUntil '\x7d' (readField item) fuel s := by
  induction fuel generalizing s with
  | zero => rfl
  | succ fuel ih =>
    rw [readFields, readUntil]
    congr
    funext ⟨first, s⟩
    dsimp only
    split
    · next rest heq => rw [heq]; rfl
    · next rest heq =>
      rw [heq, ih rest]
      rfl
    · next hclose hcomma =>
      cases hskip : skipBlanks s with
      | nil => rfl
      | cons c rest =>
        have hc : c ≠ '\x7d' := fun heq => hclose rest (heq ▸ hskip)
        have hc' : c ≠ ',' := fun heq => hcomma rest (heq ▸ hskip)
        exact ((if_neg hc).trans (if_neg hc')).symm

theorem readValue_string (depth : Nat) (s : List Char) :
    readValue (depth + 1) ('"' :: s) =
      (readString s).bind fun (text, s) => some (.string text, s) := rfl

theorem readValue_array (depth : Nat) {s : List Char} (h : ∀ rest, skipBlanks s ≠ ']' :: rest) :
    readValue (depth + 1) ('[' :: s) =
      (readUntil ']' (fun s => readValue depth (skipBlanks s)) (skipBlanks s).length s).bind
        fun (items, rest) => some (.array items, rest) := by
  rw [readValue, ← readUntil_skipBlanks fun s => by rw [skipBlanks_skipBlanks],
    ← readItems_eq_readUntil]
  split
  · next rest heq => exact absurd heq (h rest)
  · rfl

theorem readValue_object (depth : Nat) {s : List Char}
    (h : ∀ rest, skipBlanks s ≠ '\x7d' :: rest) :
    readValue (depth + 1) ('\x7b' :: s) =
      (readUntil '\x7d' (readField (readValue depth)) (skipBlanks s).length s).bind
        fun (fields, rest) => some (.object fields, rest) := by
  have hfield : ∀ s, readField (readValue depth) (skipBlanks s) = readField (readValue depth) s :=
    fun s => by rw [readField, readField, skipBlanks_skipBlanks]
  rw [readValue, ← readUntil_skipBlanks hfield, ← readFields_eq_readUntil]
  split
  · next rest heq => exact absurd heq (h rest)
  · rfl

/-- The text is read as the document, whatever follows it, with a depth beyond its length. -/
structure IsText (json : Json) (text : List Char) : Prop where
  starts : StartsMember text
  reads : ∀ depth, text.length < depth → ∀ rest, readValue depth (text ++ rest) = some (json, rest)

theorem isText_of_reads {json : Json} {text : List Char} (hstarts : StartsMember text)
    (h : ∀ depth, text.length ≤ depth → ∀ rest,
      readValue (depth + 1) (text ++ rest) = some (json, rest)) : IsText json text where
  starts := hstarts
  reads depth hdepth rest := by
    obtain ⟨depth, rfl⟩ : ∃ n, depth = n + 1 := ⟨depth - 1, by omega⟩
    exact h depth (by omega) rest

theorem isText_null : IsText .null (compact .null) :=
  isText_of_reads ⟨'n', _, rfl, rfl, by decide, by decide⟩ fun _ _ _ => rfl

theorem isText_bool (value : Bool) : IsText (.bool value) (compact (.bool value)) := by
  cases value with
  | true => exact isText_of_reads ⟨'t', _, rfl, rfl, by decide, by decide⟩ fun _ _ _ => rfl
  | false => exact isText_of_reads ⟨'f', _, rfl, rfl, by decide, by decide⟩ fun _ _ _ => rfl

theorem isText_string (text : String) : IsText (.string (some text)) (writeString text) := by
  refine isText_of_reads ⟨'"', _, rfl, rfl, by decide, by decide⟩ fun depth _ rest => ?_
  obtain ⟨s, hwrite, hread⟩ := readString_writeString text rest
  rw [hwrite, readValue_string, hread, Option.bind_some]

theorem isText_emptyArray : IsText (.array []) ['[', ']'] :=
  isText_of_reads ⟨'[', _, rfl, rfl, by decide, by decide⟩ fun _ _ _ => rfl

theorem isText_emptyObject : IsText (.object []) ['\x7b', '\x7d'] :=
  isText_of_reads ⟨'\x7b', _, rfl, rfl, by decide, by decide⟩ fun _ _ _ => rfl

theorem isText_array {gap last : List Char} (hgap : IsGap gap) (hlast : IsGap last)
    {write : Json → List Char} {items : List Json} (hne : items ≠ [])
    (h : ∀ item ∈ items, IsText item (write item)) :
    IsText (.array items) ('[' :: (separated gap write items ++ (last ++ [']']))) := by
  refine isText_of_reads ⟨'[', _, rfl, rfl, by decide, by decide⟩ fun depth hdepth rest => ?_
  have hread : ∀ item ∈ items, ∀ rest,
      readValue depth (skipBlanks (gap ++ (write item ++ rest))) = some (item, rest) := by
    intro item hmem rest
    have hle : (write item).length ≤ (separated gap write items).length :=
      length_le_of_mem_separated hmem
    rw [hgap.skipBlanks_append, skipBlanks_of_startsMember (h item hmem).starts]
    simp only [List.length_append, List.length_cons] at hdepth
    exact (h item hmem).reads depth (by omega) rest
  obtain ⟨first, others, rfl⟩ := List.exists_cons_of_ne_nil hne
  obtain ⟨hnonempty, hitems⟩ := readUntil_separated_length
    (fun s => readValue depth (skipBlanks s)) (Or.inl rfl) hgap hlast
    (h first List.mem_cons_self).starts hread rest
  rw [List.cons_append, List.append_assoc, List.append_assoc, List.cons_append, List.nil_append,
    readValue_array depth hnonempty, hitems, Option.bind_some]

def writeField (gap : List Char) (write : Json → List Char) (field : Option String × Json) :
    List Char :=
  writeText field.1 ++ ':' :: (gap ++ write field.2)

theorem startsMember_writeField (gap : List Char) (write : Json → List Char)
    (field : Option String × Json) : StartsMember (writeField gap write field) :=
  ⟨'"', _, rfl, rfl, by decide, by decide⟩

theorem readField_writeField {depth : Nat} {gap inner : List Char} (hgap : IsGap gap)
    (hinner : IsGap inner) {write : Json → List Char} {field : Option String × Json}
    (hkey : ∃ key, field.1 = some key) (h : IsText field.2 (write field.2))
    (hdepth : (write field.2).length < depth) (rest : List Char) :
    readField (readValue depth) (gap ++ (writeField inner write field ++ rest)) =
      some (field, rest) := by
  obtain ⟨key, value⟩ := field
  obtain ⟨name, rfl : key = some name⟩ := hkey
  obtain ⟨s, hwrite, hname⟩ := readString_writeString name (':' :: (inner ++ (write value ++ rest)))
  have hskip : skipBlanks (gap ++ (writeField inner write (some name, value) ++ rest)) =
      '"' :: s := by
    rw [hgap.skipBlanks_append, writeField, List.append_assoc, List.cons_append,
      List.append_assoc, writeText, Option.getD_some, hwrite]
    exact skipBlanks_cons (by decide) s
  have hvalue : skipBlanks (inner ++ (write value ++ rest)) = write value ++ rest :=
    (hinner.skipBlanks_append _).trans (skipBlanks_of_startsMember h.starts rest)
  have hread : readValue depth (write value ++ rest) = some (value, rest) :=
    h.reads depth hdepth rest
  rw [readField, hskip]
  simp only [Option.bind_eq_bind, hname, Option.bind_some, skipBlanks_cons (c := ':') rfl, hvalue,
    hread]

theorem isText_object {gap inner last : List Char} (hgap : IsGap gap) (hinner : IsGap inner)
    (hlast : IsGap last) {write : Json → List Char} {fields : List (Option String × Json)}
    (hne : fields ≠ []) (hkeys : ∀ field ∈ fields, ∃ key, field.1 = some key)
    (h : ∀ field ∈ fields, IsText field.2 (write field.2)) :
    IsText (.object fields)
      ('\x7b' :: (separated gap (writeField inner write) fields ++ (last ++ ['\x7d']))) := by
  refine isText_of_reads ⟨'\x7b', _, rfl, rfl, by decide, by decide⟩ fun depth hdepth rest => ?_
  have hread : ∀ field ∈ fields, ∀ rest,
      readField (readValue depth) (gap ++ (writeField inner write field ++ rest)) =
        some (field, rest) := by
    intro field hmem
    have hle : (writeField inner write field).length ≤
        (separated gap (writeField inner write) fields).length := length_le_of_mem_separated hmem
    refine readField_writeField hgap hinner (hkeys field hmem) (h field hmem) ?_
    simp only [List.length_append, List.length_cons, writeField] at hdepth hle
    omega
  obtain ⟨first, others, rfl⟩ := List.exists_cons_of_ne_nil hne
  obtain ⟨hnonempty, hfields⟩ := readUntil_separated_length (readField (readValue depth))
    (Or.inr rfl) hgap hlast (startsMember_writeField inner write first) hread rest
  rw [List.cons_append, List.append_assoc, List.append_assoc, List.cons_append, List.nil_append,
    readValue_object depth hnonempty, hfields, Option.bind_some]

/-- The text of a document, with blanks around it, is read as the document. -/
theorem IsText.read?_append {json : Json} {text gap : List Char} (h : IsText json text)
    (hgap : IsGap gap) : read? (String.ofList (text ++ gap)) = some json := by
  have hread : readValue ((text ++ gap).length + 1) (text ++ gap) = some (json, gap) := by
    refine h.reads _ ?_ gap
    rw [List.length_append]
    omega
  have hrest : skipBlanks gap = [] := by
    simpa [skipBlanks] using hgap.skipBlanks_append []
  rw [read?, String.toList_ofList, skipBlanks_of_startsMember h.starts, hread]
  simp only [Option.bind_eq_bind, Option.bind_some, hrest, if_true]

end TemplateEngine.Json
