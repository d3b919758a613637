import NodeApi.Proofs.Entries
import NodeApi.Proofs.Json.Scalar
import NodeApi.Proofs.Json.Scan

/-!
# Values that are read back

A printed value is read as this value, in either layout, as long as it nests no deeper than a reader
allows.  A value that nests deeper is refused at the bracket that is one too many: all that stands
before this bracket is read without a fault.

Main results:

- Theorem `InRow.outcome`: items in a row are read back one after the other, up to the first that is
  too deep.
- Theorems `inRow_list` and `inRow_object`: elements and members stand in a row.
- Theorem `Exact.decidedByDepth`: every value of the right form is read back or too deep, according
  to its depth.
- Theorems `Exact.read_print` and `Exact.read_print_of_lt`: the same for whole texts.
-/

namespace NodeApi
namespace Json

/-! ## Values that a text gives back -/

/-- A value that nothing is lost of in a text: no object has a key twice, and every number is an
integer of 64 bits. -/
inductive Exact : Json → Prop where
  | null : Exact .null
  | bool (value : Bool) : Exact (.bool value)
  | integer {value : Int} : Number.Fits value → Exact (.number (.integer value))
  | string (value : String) : Exact (.string value)
  | array {elements : List Json} : (∀ element ∈ elements, Exact element) → Exact (.array elements)
  | object {members : List (String × Json)} :
      (Entries.keys members).Nodup → (∀ member ∈ members, Exact member.2) →
        Exact (.object members)

/-- An object that is made from members has no key twice. -/
theorem exact_ofMembers {members : List (String × Json)}
    (h : ∀ member ∈ members, Exact member.2) : Exact (.ofMembers members) := by
  refine .object (Entries.nodup_keys_settle members) fun member hmember => ?_
  exact h member (Entries.mem_of_mem_settle hmember)

/-! ## The front of a printed value -/

theorem skipBlanks_lineBreak (layout : Layout) (indent : Nat) (text : List Char) :
    skipBlanks (layout.lineBreak indent text) = skipBlanks text := by
  cases layout with
  | compact => rfl
  | pretty =>
    have hspaces : ∀ c ∈ List.replicate (2 * indent) ' ', isBlank c = true := by
      intro c hc
      rw [List.eq_of_mem_replicate hc]
      rfl
    change skipBlanks ('\n' :: List.replicate (2 * indent) ' ' ++ text) = skipBlanks text
    rw [List.cons_append, skipBlanks, List.dropWhile_cons_of_pos (by decide)]
    rw [List.dropWhile_append_of_pos hspaces]
    rfl

/-- A value is read from behind the blanks before it. -/
theorem readValue_congr (n : Nat) {s t : List Char} (h : skipBlanks s = skipBlanks t) :
    readValue n s = readValue n t := by
  rw [readValue, readValue, h]

/-- A printed value begins neither with a blank nor with a closing bracket. -/
theorem Exact.write_eq_cons {j : Json} (h : j.Exact) (layout : Layout) (indent : Nat)
    (rest : List Char) :
    ∃ c tail, write layout indent j rest = c :: tail ∧ isBlank c = false ∧ c ≠ ']' := by
  cases h with
  | null => exact ⟨'n', _, rfl, by decide, by decide⟩
  | bool value =>
    cases value with
    | true => exact ⟨'t', _, rfl, by decide, by decide⟩
    | false => exact ⟨'f', _, rfl, by decide, by decide⟩
  | @integer value _ =>
    rcases integerText_eq_cons value with ⟨c, digits, htext, hstart⟩
    refine ⟨c, digits ++ rest, ?_, hstart.isBlank_eq_false, hstart.ne (by decide) (by decide)⟩
    rw [write, numberText, htext, List.cons_append]
  | string value => exact ⟨'"', _, rfl, by decide, by decide⟩
  | @array elements _ =>
    cases elements with
    | nil => exact ⟨'[', _, rfl, by decide, by decide⟩
    | cons element elements => exact ⟨'[', _, by rw [write], by decide, by decide⟩
  | @object members _ _ =>
    cases members with
    | nil => exact ⟨'\x7b', _, rfl, by decide, by decide⟩
    | cons member members => exact ⟨'\x7b', _, by rw [write], by decide, by decide⟩

/-! ## Depth -/

theorem depthAll_le_iff {elements : List Json} {n : Nat} :
    depthAll elements ≤ n ↔ ∀ element ∈ elements, element.depth ≤ n := by
  induction elements with
  | nil => simp [depthAll]
  | cons element elements ih =>
    rw [depthAll, Nat.max_le, ih, List.forall_mem_cons]

theorem depthMembers_le_iff {members : List (String × Json)} {n : Nat} :
    depthMembers members ≤ n ↔ ∀ member ∈ members, member.2.depth ≤ n := by
  induction members with
  | nil => simp [depthMembers]
  | cons member members ih =>
    rcases member with ⟨key, value⟩
    rw [depthMembers, Nat.max_le, ih, List.forall_mem_cons]

theorem depth_array_le_iff {elements : List Json} {n : Nat} :
    (array elements).depth ≤ n + 1 ↔ ∀ element ∈ elements, element.depth ≤ n := by
  rw [depth, Nat.add_le_add_iff_right, depthAll_le_iff]

theorem depth_object_le_iff {members : List (String × Json)} {n : Nat} :
    (object members).depth ≤ n + 1 ↔ ∀ member ∈ members, member.2.depth ≤ n := by
  rw [depth, Nat.add_le_add_iff_right, depthMembers_le_iff]

/-! ## Lengths -/

theorem length_lineBreak (layout : Layout) (indent : Nat) (text : List Char) :
    text.length ≤ (layout.lineBreak indent text).length := by
  cases layout with
  | compact => exact Nat.le_refl _
  | pretty =>
    simp only [Layout.lineBreak, List.length_append, List.length_cons]
    omega

theorem length_colon (layout : Layout) (text : List Char) :
    text.length ≤ (layout.colon text).length := by
  cases layout with
  | compact => simp [Layout.colon]
  | pretty =>
    simp only [Layout.colon, List.length_cons]
    omega

theorem length_write (layout : Layout) (indent : Nat) (j : Json) (rest : List Char) :
    rest.length ≤ (write layout indent j rest).length := by
  have happend := write_append layout indent j [] rest
  rw [List.nil_append] at happend
  rw [happend, List.length_append]
  omega

theorem length_writeElements (layout : Layout) (indent : Nat) (elements : List Json)
    (rest : List Char) :
    elements.length + rest.length ≤ (writeElements layout indent elements rest).length := by
  induction elements with
  | nil => simp [writeElements]
  | cons element elements ih =>
    have hwrite := length_write layout indent element (writeElements layout indent elements rest)
    have hbreak := length_lineBreak layout indent
      (write layout indent element (writeElements layout indent elements rest))
    simp only [writeElements, List.length_cons]
    omega

theorem length_writeMembers (layout : Layout) (indent : Nat) (members : List (String × Json))
    (rest : List Char) :
    members.length + rest.length ≤ (writeMembers layout indent members rest).length := by
  induction members with
  | nil => simp [writeMembers]
  | cons member members ih =>
    rcases member with ⟨key, value⟩
    have hwrite := length_write layout indent value (writeMembers layout indent members rest)
    have hcolon := length_colon layout
      (write layout indent value (writeMembers layout indent members rest))
    have hkey := length_escaped key (layout.colon
      (write layout indent value (writeMembers layout indent members rest)))
    have hbreak := length_lineBreak layout indent (writeString key (layout.colon
      (write layout indent value (writeMembers layout indent members rest))))
    simp only [writeMembers, List.length_cons]
    rw [writeString_eq, List.length_cons] at hbreak
    rw [writeString_eq]
    omega

/-! ## Outcomes -/

/-- Within so many levels the printed value is read back, whatever follows it. -/
def ReadsBack (n : Nat) (j : Json) : Prop :=
  ∀ (layout : Layout) (indent : Nat) (rest : List Char), EndsNumber rest →
    readValue n (write layout indent j rest) = .ok (j, rest)

/-- The printed value is refused at a bracket since it has more than so many levels. -/
def RunsTooDeep (n : Nat) (j : Json) : Prop :=
  ∀ (layout : Layout) (indent : Nat) (rest : List Char),
    ∃ unread, readValue n (write layout indent j rest) = stopAt .tooDeep unread

/-- The depth of a value decides which of the two happens to it. -/
def DecidedByDepth (n : Nat) (j : Json) : Prop :=
  (j.depth ≤ n ∧ ReadsBack n j) ∨ (n < j.depth ∧ RunsTooDeep n j)

/-- The depth of a value is the same in every layout, so either all texts of the value are read back
or all of them are refused. -/
theorem decidedByDepth_of_forall {n : Nat} {j : Json}
    (h : ∀ (layout : Layout) (indent : Nat) (rest : List Char),
      (j.depth ≤ n ∧ readValue n (write layout indent j rest) = .ok (j, rest)) ∨
      (n < j.depth ∧
        ∃ unread, readValue n (write layout indent j rest) = stopAt .tooDeep unread)) :
    DecidedByDepth n j := by
  by_cases hdepth : j.depth ≤ n
  · refine Or.inl ⟨hdepth, fun layout indent rest _ => ?_⟩
    rcases h layout indent rest with ⟨_, hok⟩ | ⟨hdeep, _⟩
    · exact hok
    · omega
  · refine Or.inr ⟨by omega, fun layout indent rest => ?_⟩
    rcases h layout indent rest with ⟨hback, _⟩ | ⟨_, hstop⟩
    · omega
    · exact hstop

/-- A reader treats printed values like the reader for so many levels: it reads back what that one
reads back, and refuses what is too deep for that one. -/
structure ReadsAlike (n : Nat) (reader : Reader Json) : Prop where
  blanks : ∀ {s t : List Char}, skipBlanks s = skipBlanks t → reader s = reader t
  readsBack : ∀ {j : Json}, j.Exact → ReadsBack n j → ∀ (layout : Layout) (indent : Nat)
    (rest : List Char), EndsNumber rest → reader (write layout indent j rest) = .ok (j, rest)
  runsTooDeep : ∀ {j : Json}, RunsTooDeep n j → ∀ (layout : Layout) (indent : Nat)
    (rest : List Char), ∃ unread, reader (write layout indent j rest) = stopAt .tooDeep unread

theorem readsAlike_readValue (n : Nat) : ReadsAlike n (readValue n) where
  blanks := readValue_congr n
  readsBack _ hback := hback
  runsTooDeep hdeep := hdeep

/-! ## Items in a row -/

/-- An item behind a comma, unless it is the first. -/
def behindComma (first : Bool) (text : List Char) : List Char :=
  if first then text else ',' :: text

/-- Texts of items in a row, and a reader that goes through them.  An item that is read back leaves
the text behind it, one that is too deep ends the reading, and behind the last item the text is
closed. -/
structure InRow {α : Type} (n : Nat) (value : α → Json)
    (fold : List Char → Bool → List α → Reader (List α))
    (text : Bool → α → List α → List Char → List Char)
    (behind : List α → List Char → List Char) : Prop where
  cons : ∀ item items rest, behind (item :: items) rest = text false item items rest
  closing : ∀ b bound gathered rest,
    fold (b :: bound) false gathered (behind [] rest) = .ok (gathered, rest)
  readsBack : ∀ {item}, (value item).Exact → ReadsBack n (value item) →
    ∀ first items b bound gathered rest,
      fold (b :: bound) first gathered (text first item items rest) =
        fold bound false (item :: gathered) (behind items rest)
  runsTooDeep : ∀ {item}, (value item).Exact → RunsTooDeep n (value item) →
    ∀ first items b bound gathered rest,
      ∃ unread, fold (b :: bound) first gathered (text first item items rest) =
        stopAt .tooDeep unread

/-- Items in a row are read back one after the other, up to the first that is too deep. -/
theorem InRow.outcome {α : Type} {n : Nat} {value : α → Json}
    {fold : List Char → Bool → List α → Reader (List α)}
    {text : Bool → α → List α → List Char → List Char} {behind : List α → List Char → List Char}
    (hrow : InRow n value fold text behind) (items : List α) (rest : List Char) :
    ∀ (item : α) (first : Bool) (bound : List Char) (gathered : List α),
      (∀ i ∈ item :: items, (value i).Exact ∧ DecidedByDepth n (value i)) →
      items.length + 2 ≤ bound.length →
      ((∀ i ∈ item :: items, (value i).depth ≤ n) ∧
        fold bound first gathered (text first item items rest) =
          .ok ((item :: items).reverse ++ gathered, rest)) ∨
      ((∃ i ∈ item :: items, n < (value i).depth) ∧
        ∃ unread, fold bound first gathered (text first item items rest) =
          stopAt .tooDeep unread) := by
  induction items with
  | nil =>
    intro item first bound gathered hall hbound
    -- one round for the item, and one for the closing bracket
    rcases bound with _ | ⟨b, _ | ⟨b', bound⟩⟩
    · simp at hbound
    · simp at hbound
    rcases hall item List.mem_cons_self with ⟨hexact, ⟨hdepth, hback⟩ | ⟨hdepth, hdeep⟩⟩
    · left
      refine ⟨by simpa using hdepth, ?_⟩
      rw [hrow.readsBack hexact hback, hrow.closing]
      rfl
    · right
      exact ⟨⟨item, List.mem_cons_self, hdepth⟩, hrow.runsTooDeep hexact hdeep first [] b _ _ rest⟩
  | cons next items ih =>
    intro item first bound gathered hall hbound
    rcases bound with _ | ⟨b, bound⟩
    · simp at hbound
    rcases hall item List.mem_cons_self with ⟨hexact, ⟨hdepth, hback⟩ | ⟨hdepth, hdeep⟩⟩
    · rw [hrow.readsBack hexact hback, hrow.cons]
      have hnext := ih next false bound (item :: gathered)
        (fun i hi => hall i (List.mem_cons_of_mem _ hi)) (by simpa using hbound)
      rcases hnext with ⟨hrest, hok⟩ | ⟨⟨i, hi, hrest⟩, hstop⟩
      · left
        refine ⟨List.forall_mem_cons.2 ⟨hdepth, hrest⟩, ?_⟩
        rw [hok]
        simp
      · right
        exact ⟨⟨i, List.mem_cons_of_mem _ hi, hrest⟩, hstop⟩
    · right
      exact ⟨⟨item, List.mem_cons_self, hdepth⟩,
        hrow.runsTooDeep hexact hdeep first (next :: items) b bound gathered rest⟩

section
variable {n : Nat} {reader : Reader Json} (layout : Layout) (indent outer : Nat)

/-! ## Lists -/

/-- The rest of a list, from behind an element on. -/
def listRest (elements : List Json) (rest : List Char) : List Char :=
  writeElements layout indent elements (layout.lineBreak outer (']' :: rest))

/-- The rest of a list, from an element on. -/
def listText (first : Bool) (element : Json) (elements : List Json) (rest : List Char) :
    List Char :=
  behindComma first (layout.lineBreak indent (write layout indent element
    (listRest layout indent outer elements rest)))

theorem write_array_cons (element : Json) (elements : List Json) (rest : List Char) :
    write layout outer (.array (element :: elements)) rest =
      '[' :: listText layout (outer + 1) outer true element elements rest := by
  rw [write]
  rfl

/-- The rest of a list goes on like no number. -/
theorem endsNumber_listRest (elements : List Json) (rest : List Char) :
    EndsNumber (listRest layout indent outer elements rest) := by
  cases elements with
  | nil =>
    cases layout with
    | compact => exact endsNumber_cons.2 (by decide)
    | pretty => exact endsNumber_cons.2 (by decide)
  | cons element elements => exact endsNumber_cons.2 (by decide)

theorem nextElement_listText {element : Json} (h : element.Exact) (first : Bool)
    (elements : List Json) (rest : List Char) :
    nextElement first (listText layout indent outer first element elements rest) =
      .ok (.item (write layout indent element (listRest layout indent outer elements rest))) := by
  rcases h.write_eq_cons layout indent (listRest layout indent outer elements rest) with
    ⟨c, tail, hwrite, hblank, hclosing⟩
  have hskip : skipBlanks (layout.lineBreak indent (c :: tail)) = c :: tail := by
    rw [skipBlanks_lineBreak, skipBlanks_of_not_isBlank hblank]
  rw [listText, hwrite]
  cases first with
  | true => simp [behindComma, nextElement, hskip, hclosing]
  | false =>
    have hcomma : skipBlanks (',' :: layout.lineBreak indent (c :: tail)) =
        ',' :: layout.lineBreak indent (c :: tail) := skipBlanks_of_not_isBlank (by decide)
    simp [behindComma, nextElement, hcomma, hskip, hclosing]

theorem nextElement_closing (rest : List Char) :
    nextElement false (listRest layout indent outer [] rest) = .ok (.closed rest) := by
  have hskip : skipBlanks (layout.lineBreak outer (']' :: rest)) = ']' :: rest := by
    rw [skipBlanks_lineBreak, skipBlanks_of_not_isBlank (by decide)]
  simp [nextElement, listRest, writeElements, hskip]

/-- The elements of a list stand in a row. -/
theorem inRow_list (hreader : ReadsAlike n reader) :
    InRow n id (foldItems nextElement .endInList (gather reader)) (listText layout indent outer)
      (listRest layout indent outer) where
  cons _ _ _ := rfl
  closing b bound gathered rest := by
    rw [foldItems, nextElement_closing]
  readsBack {element} hexact hback first elements b bound gathered rest := by
    change element.Exact at hexact
    change ReadsBack n element at hback
    have hread := hreader.readsBack hexact hback layout indent _
      (endsNumber_listRest layout indent outer elements rest)
    rw [foldItems, nextElement_listText layout indent outer hexact]
    dsimp only
    rw [gather_of_ok hread]
  runsTooDeep {element} hexact hdeep first elements b bound gathered rest := by
    change element.Exact at hexact
    change RunsTooDeep n element at hdeep
    rcases hreader.runsTooDeep hdeep layout indent (listRest layout indent outer elements rest) with
      ⟨unread, hstop⟩
    refine ⟨unread, ?_⟩
    rw [foldItems, nextElement_listText layout indent outer hexact]
    dsimp only
    rw [gather_of_stopAt hstop]
    rfl

/-! ## Objects -/

/-- The rest of an object, from behind a member on. -/
def objectRest (members : List (String × Json)) (rest : List Char) : List Char :=
  writeMembers layout indent members (layout.lineBreak outer ('\x7d' :: rest))

/-- The rest of an object, from within the key of a member on. -/
def memberText (member : String × Json) (members : List (String × Json)) (rest : List Char) :
    List Char :=
  escaped member.1 (layout.colon (write layout indent member.2
    (objectRest layout indent outer members rest)))

/-- The rest of an object, from a member on. -/
def objectText (first : Bool) (member : String × Json) (members : List (String × Json))
    (rest : List Char) : List Char :=
  behindComma first (layout.lineBreak indent
    ('"' :: memberText layout indent outer member members rest))

theorem write_object_cons (member : String × Json) (members : List (String × Json))
    (rest : List Char) :
    write layout outer (.object (member :: members)) rest =
      '\x7b' :: objectText layout (outer + 1) outer true member members rest := by
  rw [write]
  rfl

/-- The rest of an object goes on like no number. -/
theorem endsNumber_objectRest (members : List (String × Json)) (rest : List Char) :
    EndsNumber (objectRest layout indent outer members rest) := by
  cases members with
  | nil =>
    cases layout with
    | compact => exact endsNumber_cons.2 (by decide)
    | pretty => exact endsNumber_cons.2 (by decide)
  | cons member members => exact endsNumber_cons.2 (by decide)

theorem nextMember_objectText (first : Bool) (member : String × Json)
    (members : List (String × Json)) (rest : List Char) :
    nextMember first (objectText layout indent outer first member members rest) =
      .ok (.item (memberText layout indent outer member members rest)) := by
  have hskip (tail : List Char) : skipBlanks (layout.lineBreak indent ('"' :: tail)) =
      '"' :: tail := by
    rw [skipBlanks_lineBreak, skipBlanks_of_not_isBlank (by decide)]
  rw [objectText]
  cases first with
  | true => simp [behindComma, nextMember, hskip]
  | false =>
    have hcomma (text : List Char) : skipBlanks (',' :: text) = ',' :: text :=
      skipBlanks_of_not_isBlank (by decide)
    simp [behindComma, nextMember, hcomma, hskip]

theorem nextMember_closing (rest : List Char) :
    nextMember false (objectRest layout indent outer [] rest) = .ok (.closed rest) := by
  have hskip : skipBlanks (layout.lineBreak outer ('\x7d' :: rest)) = '\x7d' :: rest := by
    rw [skipBlanks_lineBreak, skipBlanks_of_not_isBlank (by decide)]
  simp [nextMember, objectRest, writeMembers, hskip]

/-- Behind the colon the value of a member is read. -/
theorem readMember_memberText (hreader : ReadsAlike n reader) (member : String × Json)
    (members : List (String × Json)) (rest : List Char) :
    readMember reader (memberText layout indent outer member members rest) =
      (reader (write layout indent member.2 (objectRest layout indent outer members rest))).map
        fun (value, rest) => ((member.1, value), rest) := by
  have hcolon (text : List Char) : ∃ text', readColon (layout.colon text) = .ok text' ∧
      skipBlanks text' = skipBlanks text := by
    have hskip (tail : List Char) : skipBlanks (':' :: tail) = ':' :: tail :=
      skipBlanks_of_not_isBlank (by decide)
    cases layout with
    | compact => exact ⟨text, by simp [readColon, Layout.colon, hskip], rfl⟩
    | pretty => exact ⟨' ' :: text, by simp [readColon, Layout.colon, hskip], rfl⟩
  rcases hcolon (write layout indent member.2 (objectRest layout indent outer members rest)) with
    ⟨text, htext, hblanks⟩
  rw [readMember, memberText, readLiteral_escaped]
  simp only [bind, Except.bind, htext, ← hreader.blanks hblanks]
  cases reader text with
  | error fault => rfl
  | ok result => rfl

/-- The members of an object stand in a row. -/
theorem inRow_object (hreader : ReadsAlike n reader) :
    InRow n Prod.snd (foldItems nextMember .endInObject (gather (readMember reader)))
      (objectText layout indent outer) (objectRest layout indent outer) where
  cons _ _ _ := rfl
  closing b bound gathered rest := by
    rw [foldItems, nextMember_closing]
  readsBack {member} hexact hback first members b bound gathered rest := by
    have hread := readMember_memberText layout indent outer hreader member members rest
    rw [hreader.readsBack hexact hback layout indent _
      (endsNumber_objectRest layout indent outer members rest)] at hread
    rw [foldItems, nextMember_objectText]
    dsimp only
    rw [gather_of_ok hread]
  runsTooDeep {member} _ hdeep first members b bound gathered rest := by
    rcases hreader.runsTooDeep hdeep layout indent (objectRest layout indent outer members rest)
      with ⟨unread, hstop⟩
    have hread := readMember_memberText layout indent outer hreader member members rest
    rw [hstop] at hread
    refine ⟨unread, ?_⟩
    rw [foldItems, nextMember_objectText]
    dsimp only
    rw [gather_of_stopAt hread]
    rfl

/-! ## Containers -/

theorem length_listText {element : Json} (h : element.Exact) (elements : List Json)
    (rest : List Char) :
    elements.length + 2 ≤ (listText layout indent outer true element elements rest).length := by
  have hclose := length_lineBreak layout outer (']' :: rest)
  have hrest := length_writeElements layout indent elements (layout.lineBreak outer (']' :: rest))
  have hbreak := length_lineBreak layout indent
    (write layout indent element (listRest layout indent outer elements rest))
  -- the element has a first character, and behind it stands what follows the element
  rcases h.write_eq_cons layout indent [] with ⟨c, tail, hwrite, _⟩
  have happend := write_append layout indent element []
    (listRest layout indent outer elements rest)
  rw [List.nil_append, hwrite] at happend
  rw [happend] at hbreak
  rw [listText, behindComma, if_pos rfl, happend]
  simp only [List.length_append, List.length_cons, listRest] at hbreak hclose hrest ⊢
  omega

theorem length_objectText (member : String × Json) (members : List (String × Json))
    (rest : List Char) :
    members.length + 2 ≤ (objectText layout indent outer true member members rest).length := by
  have hclose := length_lineBreak layout outer ('\x7d' :: rest)
  have hrest := length_writeMembers layout indent members (layout.lineBreak outer ('\x7d' :: rest))
  have hvalue := length_write layout indent member.2 (objectRest layout indent outer members rest)
  have hcolon := length_colon layout
    (write layout indent member.2 (objectRest layout indent outer members rest))
  have hkey := length_escaped member.1 (layout.colon
    (write layout indent member.2 (objectRest layout indent outer members rest)))
  have hbreak := length_lineBreak layout indent
    ('"' :: memberText layout indent outer member members rest)
  simp only [objectText, behindComma, if_true, List.length_cons, objectRest, memberText] at *
  omega

/-- The elements of a list are read back, up to the first that is too deep. -/
theorem readElements_listText (hreader : ReadsAlike n reader) {element : Json}
    {elements : List Json} (h : ∀ e ∈ element :: elements, e.Exact ∧ DecidedByDepth n e)
    (rest : List Char) :
    ((∀ e ∈ element :: elements, e.depth ≤ n) ∧
      readElements reader (listText layout indent outer true element elements rest) =
        .ok (element :: elements, rest)) ∨
    ((∃ e ∈ element :: elements, n < e.depth) ∧
      ∃ unread, readElements reader (listText layout indent outer true element elements rest) =
        stopAt .tooDeep unread) := by
  have hlength := length_listText layout indent outer (h element List.mem_cons_self).1 elements rest
  rw [readElements, readItems]
  rcases (inRow_list layout indent outer hreader).outcome elements rest element true _ [] h
    hlength with ⟨hdepth, hok⟩ | ⟨hdepth, unread, hstop⟩
  · refine Or.inl ⟨hdepth, ?_⟩
    rw [hok]
    simp [Except.map]
  · exact Or.inr ⟨hdepth, unread, by rw [hstop]; rfl⟩

/-- The members of an object are read back, up to the first that is too deep. -/
theorem readMembers_objectText (hreader : ReadsAlike n reader) {member : String × Json}
    {members : List (String × Json)}
    (h : ∀ m ∈ member :: members, m.2.Exact ∧ DecidedByDepth n m.2) (rest : List Char) :
    ((∀ m ∈ member :: members, m.2.depth ≤ n) ∧
      readMembers (readMember reader) (objectText layout indent outer true member members rest) =
        .ok (member :: members, rest)) ∨
    ((∃ m ∈ member :: members, n < m.2.depth) ∧
      ∃ unread, readMembers (readMember reader)
        (objectText layout indent outer true member members rest) = stopAt .tooDeep unread) := by
  have hlength := length_objectText layout indent outer member members rest
  rw [readMembers, readItems]
  rcases (inRow_object layout indent outer hreader).outcome members rest member true _ [] h
    hlength with ⟨hdepth, hok⟩ | ⟨hdepth, unread, hstop⟩
  · refine Or.inl ⟨hdepth, ?_⟩
    rw [hok]
    simp [Except.map]
  · exact Or.inr ⟨hdepth, unread, by rw [hstop]; rfl⟩

end

/-! ## Values -/

theorem readValue_list (n : Nat) (s : List Char) :
    readValue (n + 1) ('[' :: s) =
      (readElements (readValue n) s).map fun (elements, rest) => (.array elements, rest) := by
  rw [readValue, skipBlanks_of_not_isBlank (by decide)]
  rfl

theorem readValue_object (n : Nat) (s : List Char) :
    readValue (n + 1) ('\x7b' :: s) = (readMembers (readMember (readValue n)) s).map
      fun (members, rest) => (.ofMembers members, rest) := by
  rw [readValue, skipBlanks_of_not_isBlank (by decide)]
  rfl

/-- Without levels no list and no object is read. -/
theorem runsTooDeep_zero {j : Json} (h : 0 < j.depth) : RunsTooDeep 0 j := by
  intro layout indent rest
  cases j with
  | array elements =>
    cases elements with
    | nil => exact ⟨_, readValue_zero_list _⟩
    | cons element elements =>
      rw [write]
      exact ⟨_, readValue_zero_list _⟩
  | object members =>
    have hstop (s : List Char) : readValue 0 ('\x7b' :: s) = stopAt .tooDeep ('\x7b' :: s) := by
      rw [readValue, skipBlanks_of_not_isBlank (by decide)]
      rfl
    cases members with
    | nil => exact ⟨_, hstop _⟩
    | cons member members =>
      rw [write]
      exact ⟨_, hstop _⟩
  | _ => simp [depth] at h

/-- The depth of a list decides whether it is read back, if that of its elements does. -/
theorem decidedByDepth_array {elements : List Json} (hexact : ∀ element ∈ elements, element.Exact)
    (h : ∀ element ∈ elements, ∀ n, DecidedByDepth n element) (n : Nat) :
    DecidedByDepth n (.array elements) := by
  cases n with
  | zero =>
    have hdepth : 0 < (Json.array elements).depth := by simp [depth]
    exact Or.inr ⟨hdepth, runsTooDeep_zero hdepth⟩
  | succ n =>
    apply decidedByDepth_of_forall
    intro layout indent rest
    cases elements with
    | nil =>
      left
      refine ⟨depth_array_le_iff.2 (by simp), ?_⟩
      rw [write, readValue_list]
      rfl
    | cons element elements =>
      rw [write_array_cons, readValue_list]
      rcases readElements_listText layout (indent + 1) indent (readsAlike_readValue n)
          (fun e he => ⟨hexact e he, h e he n⟩) rest with
        ⟨hdepth, hok⟩ | ⟨⟨e, he, hdepth⟩, unread, hstop⟩
      · left
        refine ⟨depth_array_le_iff.2 hdepth, ?_⟩
        rw [hok]
        rfl
      · right
        refine ⟨Nat.not_le.1 fun hle => ?_, unread, by rw [hstop]; rfl⟩
        exact absurd hdepth (Nat.not_lt.2 (depth_array_le_iff.1 hle e he))

/-- The depth of an object decides whether it is read back, if that of its member values does. -/
theorem decidedByDepth_object {members : List (String × Json)}
    (hnodup : (Entries.keys members).Nodup) (hexact : ∀ member ∈ members, member.2.Exact)
    (h : ∀ member ∈ members, ∀ n, DecidedByDepth n member.2) (n : Nat) :
    DecidedByDepth n (.object members) := by
  cases n with
  | zero =>
    have hdepth : 0 < (Json.object members).depth := by simp [depth]
    exact Or.inr ⟨hdepth, runsTooDeep_zero hdepth⟩
  | succ n =>
    apply decidedByDepth_of_forall
    intro layout indent rest
    cases members with
    | nil =>
      left
      refine ⟨depth_object_le_iff.2 (by simp), ?_⟩
      rw [write, readValue_object]
      rfl
    | cons member members =>
      rw [write_object_cons, readValue_object]
      rcases readMembers_objectText layout (indent + 1) indent (readsAlike_readValue n)
          (fun m hm => ⟨hexact m hm, h m hm n⟩) rest with
        ⟨hdepth, hok⟩ | ⟨⟨m, hm, hdepth⟩, unread, hstop⟩
      · left
        refine ⟨depth_object_le_iff.2 hdepth, ?_⟩
        rw [hok]
        simp [Except.map, ofMembers, Entries.settle_of_nodup hnodup]
      · right
        refine ⟨Nat.not_le.1 fun hle => ?_, unread, by rw [hstop]; rfl⟩
        exact absurd hdepth (Nat.not_lt.2 (depth_object_le_iff.1 hle m hm))

/-- A value that is no container is read by its first character. -/
theorem readValue_scalar (n : Nat) {c : Char} {s : List Char} (hblank : isBlank c = false)
    (hlist : c ≠ '[') (hobject : c ≠ '\x7b') :
    readValue n (c :: s) = readScalar (c :: s) := by
  rw [readValue, skipBlanks_of_not_isBlank hblank]
  dsimp only
  rw [if_neg hlist, if_neg hobject]

/-- A value that is no container is read back if it is read by its first character. -/
theorem readsBack_of_readScalar (n : Nat) {j : Json}
    (h : ∀ (layout : Layout) (indent : Nat) (rest : List Char), EndsNumber rest →
      ∃ c tail, write layout indent j rest = c :: tail ∧ isBlank c = false ∧ c ≠ '[' ∧
        c ≠ '\x7b' ∧ readScalar (c :: tail) = .ok (j, rest)) :
    ReadsBack n j := by
  intro layout indent rest hrest
  rcases h layout indent rest hrest with ⟨c, tail, hwrite, hblank, hlist, hobject, hread⟩
  rw [hwrite, readValue_scalar n hblank hlist hobject, hread]

/-- A value of the right form is read back or refused as too deep, according to its depth. -/
theorem Exact.decidedByDepth {j : Json} (h : j.Exact) : ∀ n, DecidedByDepth n j := by
  induction h with
  | null =>
    intro n
    refine Or.inl ⟨Nat.zero_le n, readsBack_of_readScalar n fun layout indent rest _ => ?_⟩
    exact ⟨'n', _, rfl, by decide, by decide, by decide, rfl⟩
  | bool value =>
    intro n
    refine Or.inl ⟨Nat.zero_le n, readsBack_of_readScalar n fun layout indent rest _ => ?_⟩
    cases value with
    | true => exact ⟨'t', _, rfl, by decide, by decide, by decide, rfl⟩
    | false => exact ⟨'f', _, rfl, by decide, by decide, by decide, rfl⟩
  | @integer value hfits =>
    intro n
    refine Or.inl ⟨Nat.zero_le n, readsBack_of_readScalar n fun layout indent rest hrest => ?_⟩
    have hread := readScalar_integer hfits hrest
    rcases integerText_eq_cons value with ⟨c, digits, htext, hstart⟩
    rw [htext, List.cons_append] at hread
    refine ⟨c, digits ++ rest, ?_, hstart.isBlank_eq_false, hstart.ne (by decide) (by decide),
      hstart.ne (by decide) (by decide), hread⟩
    rw [write, numberText, htext, List.cons_append]
  | string value =>
    intro n
    refine Or.inl ⟨Nat.zero_le n, readsBack_of_readScalar n fun layout indent rest _ => ?_⟩
    refine ⟨'"', escaped value rest, rfl, by decide, by decide, by decide, ?_⟩
    change (readLiteral (escaped value rest)).map _ = _
    rw [readLiteral_escaped]
    rfl
  | array hall ih => exact decidedByDepth_array hall ih
  | object hnodup hall ih => exact decidedByDepth_object hnodup hall ih

/-! ## Texts -/

/-- The text of a value that is not too deep is read as this value. -/
theorem Exact.read_print {j : Json} (h : j.Exact) (layout : Layout) (hdepth : j.depth ≤ maxDepth) :
    read (j.print layout) = .ok j := by
  rcases h.decidedByDepth maxDepth with ⟨_, hback⟩ | ⟨hdeep, _⟩
  · rw [read, readAll_eq_ok_iff]
    refine ⟨[], ?_, rfl⟩
    rw [print, String.toList_ofList]
    exact hback layout 0 [] endsNumber_nil
  · omega

/-- The text of a value that is too deep is refused. -/
theorem Exact.read_print_of_lt {j : Json} (h : j.Exact) (layout : Layout)
    (hdepth : maxDepth < j.depth) :
    ∃ place, read (j.print layout) = .error (.malformed .tooDeep (some place)) := by
  rcases h.decidedByDepth maxDepth with ⟨hback, _⟩ | ⟨_, hdeep⟩
  · omega
  · rcases hdeep layout 0 [] with ⟨unread, hstop⟩
    refine ⟨locate (j.print layout).toList unread 1, ?_⟩
    have htext : (j.print layout).toList = write layout 0 j [] := by
      rw [print, String.toList_ofList]
    rw [read, readAll, htext, hstop]
    rfl

end Json
end NodeApi
