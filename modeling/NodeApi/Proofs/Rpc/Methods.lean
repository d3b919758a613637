import NodeApi.Proofs.Rpc.Definitions
import NodeApi.Proofs.Schema.Run
import NodeApi.Rpc.Methods

/-!
# Methods as they are shown

The methods of a document are described section by section.  What is shown of the key of a section
is its last part only, so sections of one name may follow each other or stand apart; they are
neither merged nor mixed.

Main results:

- Theorem `isLastPart_sectionName`: a section is named by the last part of its key.
- Theorem `describe_listed`: each section is described by one block, each method by one entry.
- Theorem `describe_decoded`: the same for definitions that are decoded, seen from what is written.
-/

namespace NodeApi
namespace Rpc

/-! ## What is shown -/

/-- The part of a key behind its last slash, or the whole key if there is none. -/
def IsLastPart (key name : String) : Prop :=
  '/' ∉ name.toList ∧ (name = key ∨ ∃ front, key = front ++ "/" ++ name)

/-- A section is named by the last part of its key. -/
theorem isLastPart_sectionName (key : String) : IsLastPart key (sectionName key) := by
  by_cases hslash : '/' ∈ key.toList
  · -- the last slash of the key is the first one from its end
    rcases List.eq_append_cons_of_mem (List.mem_reverse.2 hslash) with ⟨name, front, hkey, hname⟩
    have hall : ∀ c ∈ name, decide (c ≠ '/') = true := fun c hc => by
      have hne : c ≠ '/' := fun heq => hname (heq ▸ hc)
      simp [hne]
    have htake : key.toList.reverse.takeWhile (· ≠ '/') = name := by
      rw [hkey, List.takeWhile_append_of_pos hall]
      simp
    rw [sectionName, htake, IsLastPart, String.toList_ofList, List.mem_reverse]
    refine ⟨hname, .inr ⟨String.ofList front.reverse, ?_⟩⟩
    rw [← String.toList_inj, ← List.reverse_reverse key.toList, hkey]
    simp
  · rw [sectionName_of_not_mem hslash]
    exact ⟨hslash, .inl rfl⟩

/-- An entry shows a method of a section: by its name, with the last part of the key of the section,
and with one parameter for each declared one, in their order. -/
structure ShowsMethod (key : String) (method : String × Method) (e : MethodEntry) : Prop where
  name : e.name = method.1
  sectionName : IsLastPart key e.sectionName
  params : List.Forall₂ (fun declared p => p.name = declared.name ∧ p.type = declared.type)
    method.2.params e.params

theorem describeMethod_shows (results : ResultRule) (key : String) (s : Session)
    (method : String × Method) :
    ShowsMethod key method (describeMethod results (sectionName key) s method).1 where
  name := rfl
  sectionName := isLastPart_sectionName key
  params := Session.forall₂_mapEach (fun _ _ => ⟨rfl, rfl⟩) s method.2.params

/-- A block of entries shows the methods of a section: each by one entry, in their order. -/
def ShowsSection (entry : String × List (String × Method)) (block : List MethodEntry) : Prop :=
  List.Forall₂ (ShowsMethod entry.1) entry.2 block

theorem describeSection_shows (results : ResultRule) (s : Session) (entry : String × Section) :
    ShowsSection (Prod.map id Section.methods entry) (describeSection results s entry).1 :=
  Session.forall₂_mapEach (describeMethod_shows results entry.1) _ entry.2.methods

/-- Each section is described by one block, each method by one entry. -/
theorem describe_listed (definitions : Definitions) (results : ResultRule) (s : Session) :
    ∃ blocks : List (List MethodEntry),
      (describe definitions results s).1 = blocks.flatten ∧
      List.Forall₂ ShowsSection definitions.listed blocks := by
  refine ⟨_, rfl, ?_⟩
  rw [Definitions.listed, List.forall₂_map_left_iff]
  exact Session.forall₂_mapEach (describeSection_shows results) s definitions.entries

/-- Whatever definitions are decoded from, their methods are described section by section in
ascending order of the section keys.  The sections are what is left of those that are written. -/
theorem describe_decoded {source : Json.Source} {definitions : Definitions}
    (h : Definitions.decoder.decode source = .ok definitions) (results : ResultRule) (s : Session) :
    ∃ (written sections : List (String × List (String × Method)))
      (blocks : List (List MethodEntry)),
      Definitions.WrittenIn source written ∧
      Remains written sections ∧
      (describe definitions results s).1 = blocks.flatten ∧
      List.Forall₂ ShowsSection sections blocks := by
  rcases Definitions.exists_writtenIn h with ⟨written, hwritten, rfl⟩
  rcases describe_listed (Definitions.ofWritten written) results s with ⟨blocks, hblocks, hshows⟩
  exact ⟨written, _, blocks, hwritten, Definitions.remains_ofWritten written, hblocks, hshows⟩

/-- Two sections of one name, one of them written twice, with members that no field asks for.  The
method that is written twice stands first in its section and has the parameter of its second value;
the other one has three parameters, written as objects and as a list. -/
theorem describe_decoded_repeated :
    let text := "\x7b \"b/x\": \x7b\"rpc\": \x7b\"old\": \x7b\x7d\x7d\x7d,\n" ++
      "\"a/x\": \x7b\"types\": [1e999, \x7b\"rpc\": 0\x7d], \"rpc\": \x7b" ++
        "\"m\": \x7b\"params\": []\x7d, " ++
        "\"n\": \x7b\"type\": \"bool\", \"params\": [" ++
          "\x7b\"type\": \"u8\", \"name\": \"a\"\x7d, " ++
          "\x7b\"name\": \"b\", \"type\": \"Hash\", \"isOptional\": true\x7d, " ++
          "[\"c\", \"Vec<u8>\"]]\x7d, " ++
        "\"m\": \x7b\"params\": [\x7b\"name\": \"at\", \"type\": \"Option<Hash>\"\x7d]\x7d" ++
      "\x7d\x7d,\n" ++
      "\"b/x\": \x7b\"rpc\": \x7b\"k\": \x7b\"description\": \"last\"\x7d\x7d\x7d \x7d\n"
    let definitions : Definitions := .ofList [
      ("a/x", ⟨[("m", ⟨[⟨"at", "Option<Hash>", false⟩], "", none, none⟩),
        ("n", ⟨[⟨"a", "u8", false⟩, ⟨"b", "Hash", true⟩, ⟨"c", "Vec<u8>", false⟩], "bool", none,
          none⟩)]⟩),
      ("b/x", ⟨[("k", ⟨[], "", some "last", none⟩)]⟩)]
    let entries := (describe definitions .omitted (.ofRegistry .builtin)).1
    Definitions.decoder.decode (.text text) = .ok definitions ∧
      entries.map (fun e =>
        (e.sectionName, e.name, e.params.map fun p => (p.name, p.type, p.required))) =
        [("x", "m", [("at", "Option<Hash>", false)]),
          ("x", "n", [("a", "u8", true), ("b", "Hash", false), ("c", "Vec<u8>", true)]),
          ("x", "k", [])] ∧
      ∃ (written sections : List (String × List (String × Method)))
        (blocks : List (List MethodEntry)),
        Definitions.WrittenIn (.text text) written ∧
        Remains written sections ∧
        entries = blocks.flatten ∧
        List.Forall₂ ShowsSection sections blocks := by
  intro text definitions entries
  have hdecoded : Definitions.decoder.decode (.text text) = .ok definitions := by decide +kernel
  have hentries : entries.map (fun e =>
      (e.sectionName, e.name, e.params.map fun p => (p.name, p.type, p.required))) =
      [("x", "m", [("at", "Option<Hash>", false)]),
        ("x", "n", [("a", "u8", true), ("b", "Hash", false), ("c", "Vec<u8>", true)]),
        ("x", "k", [])] := by
    decide +kernel
  exact ⟨hdecoded, hentries, describe_decoded hdecoded .omitted (.ofRegistry .builtin)⟩

end Rpc
end NodeApi
