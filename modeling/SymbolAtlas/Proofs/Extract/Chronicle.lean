import SymbolAtlas.Proofs.Extract.Run
import SymbolAtlas.Proofs.Registry.Sightings

/-! What many sightings leave at a symbol, told from the list of them without going
through the symbols in between. -/

namespace SymbolAtlas

open Snapshot

namespace Location

variable {place other : Location} {places set : List Location}

private theorem same_self (place : Location) : place.same place := by
  have equal : compare place place = .eq := Std.ReflCmp.compare_self
  rw [same, equal]
  rfl

private theorem same_comm (place other : Location) : place.same other = other.same place := by
  have swapped : compare place other = (compare other place).swap := Std.OrientedCmp.eq_swap
  rw [same, same, swapped]
  cases compare other place <;> rfl

private theorem isAbsent_congr (alike : place.same other) : place.isAbsent = other.isAbsent := by
  have equal : compare place other = .eq := by simpa [same] using alike
  rw [isAbsent, isAbsent, same, same, Std.TransCmp.congr_left equal]

/-- The first of some places that is the same as a given one, maybe in another spelling. -/
def firstLike (places : List Location) (place : Location) : Option Location :=
  places.find? fun earlier => earlier.same place

private theorem firstLike_congr (alike : place.same other) (places : List Location) :
    firstLike places place = firstLike places other := by
  have equal : compare place other = .eq := by simpa [same] using alike
  unfold firstLike
  congr 1
  funext earlier
  rw [same, same, Std.TransCmp.congr_right equal]

private theorem same_of_firstLike (found : firstLike places place = some other) :
    other.same place := by
  unfold firstLike at found
  simpa using List.find?_some found

private theorem firstLike_concat (places : List Location) (last place : Location) :
    firstLike (places ++ [last]) place =
      (firstLike places place).or (if last.same place then some last else none) := by
  unfold firstLike
  rw [List.find?_append, List.find?_singleton]

/-- A set in strictly ascending order holds of every place, unless that is absent, the
spelling that comes first. -/
structure Keeps (set places : List Location) : Prop where
  strict : Ascending.Strict compare set
  first : ∀ place, place ∈ set ↔ place.isAbsent = false ∧ firstLike places place = some place

private theorem keeps_nil : Keeps [] [] :=
  ⟨List.Pairwise.nil, by simp [firstLike]⟩

private theorem insert_eq_self (strict : Ascending.Strict compare set)
    (known : place.isAbsent = false → ∃ other ∈ set, place.same other) :
    place.insert set = set := by
  unfold insert
  split
  · rfl
  · rename_i present
    obtain ⟨other, member, alike⟩ := known (by simpa using present)
    exact strict.insert_eq_self ⟨other, member, by simpa [same] using alike⟩

private theorem foldl_insert_eq_self (strict : Ascending.Strict compare set)
    (known : ∀ place ∈ places, place.isAbsent = false → ∃ other ∈ set, place.same other) :
    places.foldl (fun set place => place.insert set) set = set := by
  induction places with
  | nil => rfl
  | cons place places ih =>
    rw [List.foldl_cons, insert_eq_self strict (known place List.mem_cons_self)]
    exact ih fun later member => known later (List.mem_cons_of_mem place member)

namespace Keeps

private theorem mem_of_firstLike (keeps : Keeps set places) (present : place.isAbsent = false)
    (found : firstLike places place = some other) : other ∈ set := by
  have alike := same_of_firstLike found
  exact (keeps.first other).2
    ⟨by rw [isAbsent_congr alike, present], by rw [firstLike_congr alike, found]⟩

/-- A place that is there already, or is absent, is the first of none. -/
theorem insert_known (keeps : Keeps set places)
    (known : place.isAbsent = false → ∃ other ∈ set, place.same other) :
    Keeps (place.insert set) (places ++ [place]) := by
  rw [insert_eq_self keeps.strict known]
  refine ⟨keeps.strict, fun other => (keeps.first other).trans (and_congr_right fun present => ?_)⟩
  rw [firstLike_concat]
  split
  · rename_i alike
    obtain ⟨held, member, equal⟩ := known (by rw [isAbsent_congr alike, present])
    have earlier := ((keeps.first held).1 member).2
    rw [← firstLike_congr alike, firstLike_congr equal, earlier, Option.some_or]
  · rw [Option.or_none]

private theorem insert_fresh (keeps : Keeps set places) (present : place.isAbsent = false)
    (fresh : ∀ other ∈ set, place.same other = false) :
    Keeps (place.insert set) (places ++ [place]) := by
  have none_before : firstLike places place = none := by
    cases found : firstLike places place with
    | none => rfl
    | some held =>
      have differs := fresh held (keeps.mem_of_firstLike present found)
      rw [same_comm, same_of_firstLike found] at differs
      cases differs
  have apart : ∀ other ∈ set, compare place other ≠ .eq := by
    intro other member
    simpa [same] using fresh other member
  have stored : place.insert set = Ascending.insert compare place set := by
    rw [Location.insert, present, if_neg Bool.false_ne_true]
  rw [stored]
  refine ⟨keeps.strict.insert place, fun other => ?_⟩
  rw [Ascending.mem_insert_of_apart apart, firstLike_concat]
  constructor
  · rintro (rfl | member)
    · have itself : other.same other := same_self other
      rw [none_before, if_pos itself]
      exact ⟨present, rfl⟩
    · obtain ⟨real, found⟩ := (keeps.first other).1 member
      rw [found]
      exact ⟨real, rfl⟩
  · rintro ⟨real, found⟩
    cases before : firstLike places other with
    | none =>
      rw [before, Option.none_or] at found
      split at found
      · exact .inl (Option.some.inj found).symm
      · cases found
    | some held =>
      rw [before, Option.some_or] at found
      exact .inr ((keeps.first other).2 ⟨real, before.trans found⟩)

private theorem insert (keeps : Keeps set places) (place : Location) :
    Keeps (place.insert set) (places ++ [place]) := by
  by_cases known : place.isAbsent = false → ∃ other ∈ set, place.same other
  · exact keeps.insert_known known
  · obtain ⟨present, fresh⟩ := Classical.not_imp.1 known
    exact keeps.insert_fresh present (by simpa using fresh)

private theorem foldl_insert (keeps : Keeps set places) (more : List Location) :
    Keeps (more.foldl (fun set place => place.insert set) set) (places ++ more) := by
  induction more generalizing set places with
  | nil => simpa using keeps
  | cons place more ih => simpa using ih (keeps.insert place)

end Keeps

end Location

namespace Sighting

def documents (sighting : Sighting) : Bool :=
  sighting.declares || sighting.defines

end Sighting

/-- The sightings of one symbol, the first one first. -/
abbrev Chronicle := List Sighting

namespace Chronicle

variable (chronicle : Chronicle) (last : Sighting)

def exposes : Bool :=
  chronicle.any Sighting.inMainFile

def definitions : List Location :=
  (chronicle.filter Sighting.defines).map Sighting.location

/-- The places that a sighting adds to the declarations, by whether a main file has been
seen by then. -/
def declarationsOf (exposed : Bool) (sighting : Sighting) : List Location :=
  (if exposed then sighting.definedAt.toList else []) ++
    if sighting.declares then [sighting.location] else []

def declarations : List Location :=
  chronicle.zipIdx.flatMap fun (sighting, position) =>
    declarationsOf (exposes (chronicle.take (position + 1))) sighting

def briefs : List String :=
  ((chronicle.filter Sighting.documents).filterMap Sighting.brief).filter (· ≠ "")

def raws : List String :=
  (chronicle.filter Sighting.documents).filterMap Sighting.raw

private theorem exposes_concat :
    exposes (chronicle ++ [last]) = (exposes chronicle || last.inMainFile) := by
  simp [exposes]

private theorem definitions_concat : definitions (chronicle ++ [last]) =
    definitions chronicle ++ if last.defines then [last.location] else [] := by
  cases told : last.defines <;> simp [definitions, told]

/-- What was added before does not depend on what is seen later. -/
theorem declarations_concat : declarations (chronicle ++ [last]) =
    declarations chronicle ++ declarationsOf (exposes (chronicle ++ [last])) last := by
  unfold declarations
  rw [List.zipIdx_append, List.flatMap_append]
  congr 1
  · refine List.flatMap_congr fun entry member => ?_
    have inside : entry.2 + 1 ≤ chronicle.length := by
      have position := List.snd_lt_of_mem_zipIdx member
      omega
    simp only [List.take_append_of_le_length inside]
  · have whole : (chronicle ++ [last]).take (chronicle.length + 1) = chronicle ++ [last] :=
      List.take_of_length_le (by simp)
    simp [whole]

private theorem briefs_concat : briefs (chronicle ++ [last]) = briefs chronicle ++
    if last.documents then last.brief.toList.filter (· ≠ "") else [] := by
  cases told : last.documents <;> cases given : last.brief <;> simp [briefs, told, given]

private theorem raws_concat : raws (chronicle ++ [last]) =
    raws chronicle ++ if last.documents then last.raw.toList else [] := by
  cases told : last.documents <;> cases given : last.raw <;> simp [raws, told, given]

end Chronicle

/-- The earliest of the longest of some texts; the empty text if there are none. -/
def EarliestLongest (text : String) (texts : List String) : Prop :=
  texts = [] ∧ text = "" ∨
    ∃ before after, texts = before ++ text :: after ∧
      (∀ earlier ∈ before, earlier.utf8ByteSize < text.utf8ByteSize) ∧
      ∀ later ∈ after, later.utf8ByteSize ≤ text.utf8ByteSize

namespace Documentation

variable {doc : Documentation} {texts : List String}

private theorem earliestLongest_withRaw (longest : EarliestLongest doc.raw texts)
    (raw : Option String) : EarliestLongest (doc.withRaw raw).raw (texts ++ raw.toList) := by
  cases raw with
  | none => simpa [withRaw] using longest
  | some text =>
    unfold withRaw
    simp only
    split
    · rename_i longer
      refine .inr ⟨texts, [], rfl, fun earlier member => ?_, by simp⟩
      rcases longest with ⟨rfl, -⟩ | ⟨before, after, rfl, shorter, noLonger⟩
      · cases member
      · rcases List.mem_append.1 member with first | rest
        · exact Nat.lt_trans (shorter earlier first) longer
        · rcases List.mem_cons.1 rest with rfl | later
          · exact longer
          · exact Nat.lt_of_le_of_lt (noLonger earlier later) longer
    · rename_i short
      have noLonger := Nat.le_of_not_lt short
      rcases longest with ⟨rfl, blank⟩ | ⟨before, after, rfl, shorter, others⟩
      · have same : text = "" := by
          rw [blank] at noLonger
          exact String.utf8ByteSize_eq_zero_iff.1 (Nat.le_zero.1 noLonger)
        exact .inr ⟨[], [], by simp [same, blank], by simp, by simp⟩
      · refine .inr ⟨before, after ++ [text], by simp, shorter, fun later member => ?_⟩
        rcases List.mem_append.1 member with inside | final
        · exact others later inside
        · rw [List.mem_singleton.1 final]
          exact noLonger

private theorem earliestLongest_merge (longest : EarliestLongest doc.raw texts)
    (brief raw : Option String) :
    EarliestLongest (doc.merge brief raw).raw (texts ++ raw.toList) := by
  rw [← doc.raw_withBrief brief] at longest
  exact earliestLongest_withRaw longest raw

private theorem brief_merge_getLastD (doc : Documentation) (brief raw : Option String) :
    (doc.merge brief raw).brief = (brief.toList.filter (· ≠ "")).getLastD doc.brief := by
  rw [brief_merge]
  cases brief with
  | none => rfl
  | some text => by_cases blank : text = "" <;> simp [withBrief, blank]

private theorem merge_merge (doc : Documentation) (brief raw : Option String) :
    (doc.merge brief raw).merge brief raw = doc.merge brief raw := by
  cases brief <;> cases raw <;> grind [merge, withBrief, withRaw]

end Documentation

namespace Symbol

open Chronicle

/-- What sightings have left at a symbol, told from all of them. -/
structure Sums (symbol : Symbol) (chronicle : Chronicle) : Prop where
  exposed : symbol.exposed ↔ ∃ sighting ∈ chronicle, sighting.inMainFile
  definitions : Location.Keeps symbol.definitions chronicle.definitions
  declarations : Location.Keeps symbol.declarations chronicle.declarations
  brief : symbol.doc.brief = chronicle.briefs.getLastD ""
  raw : EarliestLongest symbol.doc.raw chronicle.raws

variable {symbol : Symbol} {chronicle : Chronicle}

private theorem sums_nil (blank : symbol.core = symbol) : symbol.Sums [] := by
  rw [← blank]
  exact ⟨by simp [core], Location.keeps_nil, Location.keeps_nil, rfl, .inl ⟨rfl, rfl⟩⟩

private theorem Sums.exposed_eq (sums : symbol.Sums chronicle) :
    symbol.exposed = chronicle.exposes := by
  rw [Bool.eq_iff_iff, sums.exposed, Chronicle.exposes, List.any_eq_true]

private theorem doc_sight (symbol : Symbol) (sighting : Sighting) :
    (symbol.sight sighting).doc = if sighting.documents then
      symbol.doc.merge sighting.brief sighting.raw else symbol.doc :=
  rfl

private theorem declarations_sight (symbol : Symbol) (sighting : Sighting) :
    (symbol.sight sighting).declarations =
      (declarationsOf (symbol.sight sighting).exposed sighting).foldl
        (fun set place => place.insert set) symbol.declarations :=
  rfl

private theorem Sums.sight (sums : symbol.Sums chronicle) (sighting : Sighting) :
    (symbol.sight sighting).Sums (chronicle ++ [sighting]) := by
  have seen : (symbol.sight sighting).exposed = exposes (chronicle ++ [sighting]) := by
    rw [exposes_concat, ← sums.exposed_eq]
    rfl
  refine ⟨?_, ?_, ?_, ?_, ?_⟩
  · rw [seen, Chronicle.exposes, List.any_eq_true]
  · rw [definitions_concat]
    exact sums.definitions.foldl_insert _
  · rw [declarations_concat, ← seen]
    exact sums.declarations.foldl_insert _
  · rw [briefs_concat, doc_sight]
    split
    · rw [Documentation.brief_merge_getLastD, sums.brief]
      simp [List.getLastD_eq_getLast?, List.getLast?_append]
    · rw [List.append_nil, sums.brief]
  · rw [raws_concat, doc_sight]
    split
    · exact Documentation.earliestLongest_merge sums.raw _ _
    · rw [List.append_nil]
      exact sums.raw

private theorem sight_sight {sighting : Sighting}
    (declared : Ascending.Strict Location.compare (symbol.sight sighting).declarations)
    (defined : Ascending.Strict Location.compare (symbol.sight sighting).definitions) :
    (symbol.sight sighting).sight sighting = symbol.sight sighting := by
  have exposed : ((symbol.sight sighting).sight sighting).exposed =
      (symbol.sight sighting).exposed := by
    simp [sight]
  have declarations : ((symbol.sight sighting).sight sighting).declarations =
      (symbol.sight sighting).declarations := by
    rw [declarations_sight, exposed]
    exact Location.foldl_insert_eq_self declared fun place member present =>
      Location.exists_mem_foldl_insert member present symbol.declarations
  have definitions : ((symbol.sight sighting).sight sighting).definitions =
      (symbol.sight sighting).definitions :=
    Location.foldl_insert_eq_self defined fun place member present =>
      Location.exists_mem_foldl_insert member present symbol.definitions
  have doc : ((symbol.sight sighting).sight sighting).doc = (symbol.sight sighting).doc := by
    rw [doc_sight, doc_sight]
    split
    · exact Documentation.merge_merge _ _ _
    · rfl
  calc (symbol.sight sighting).sight sighting
      = { symbol.sight sighting with
          exposed := ((symbol.sight sighting).sight sighting).exposed
          declarations := ((symbol.sight sighting).sight sighting).declarations
          definitions := ((symbol.sight sighting).sight sighting).definitions
          doc := ((symbol.sight sighting).sight sighting).doc } := rfl
    _ = symbol.sight sighting := by rw [exposed, declarations, definitions, doc]

private theorem core_foldl_sight (symbol : Symbol) (chronicle : Chronicle) :
    (chronicle.foldl sight symbol).core = symbol.core := by
  induction chronicle generalizing symbol with
  | nil => rfl
  | cons first later ih => rw [List.foldl_cons, ih, core_sight]

private theorem sums_foldl_sight (blank : symbol.core = symbol) (chronicle : Chronicle) :
    (chronicle.foldl sight symbol).Sums chronicle := by
  induction chronicle using List.reverseRecOn with
  | nil => exact sums_nil blank
  | append_singleton earlier last ih =>
    rw [List.foldl_concat]
    exact ih.sight last

end Symbol

namespace Extract

open Snapshot

/-- A cursor of whatever snapshot is read at the time. -/
abbrev Visit :=
  (snapshot : Snapshot) × snapshot.Cursor

def Visit.sighting (visit : Visit) : Sighting :=
  visit.2.sighting

def mergeAll (index : Nat) (visits : List Visit) : Extract Unit :=
  visits.forM fun visit => merge index visit.2

variable {start : Extraction} {index : Nat} {fresh : Symbol}

private theorem runFrom_mergeAll (start : Extraction) (index : Nat) (visits : List Visit) :
    runFrom start (mergeAll index visits) =
      (.ok (), { start with
        registry := start.registry.update index
          (visits.map Visit.sighting |>.foldl Symbol.sight) }) := by
  induction visits generalizing start with
  | nil =>
    have same : start.registry.update index (fun symbol => symbol) = start.registry :=
      start.registry.update_id index
    simp only [List.map_nil, List.foldl_nil, same]
    rfl
  | cons visit visits ih =>
    have first : runFrom start (merge index visit.2) =
        (.ok (), { start with
          registry := start.registry.update index (·.sight visit.sighting) }) := rfl
    rw [mergeAll, List.forM_eq_forM, List.forM_cons, runFrom_bind, first]
    refine (ih _).trans ?_
    rw [Registry.update_update]
    rfl

private theorem runFrom_mergeAll_twice (present : start.registry.get? index = some fresh)
    (blank : fresh.core = fresh) (earlier : List Visit) (visit : Visit) (later : List Visit) :
    runFrom start (mergeAll index (earlier ++ visit :: visit :: later)) =
      runFrom start (mergeAll index (earlier ++ visit :: later)) := by
  rw [runFrom_mergeAll, runFrom_mergeAll]
  have sums := Symbol.sums_foldl_sight blank ((earlier.map Visit.sighting) ++ [visit.sighting])
  rw [List.foldl_concat] at sums
  have again := Symbol.sight_sight sums.declarations.strict sums.definitions.strict
  have same : ((earlier ++ visit :: visit :: later).map Visit.sighting).foldl Symbol.sight fresh =
      ((earlier ++ visit :: later).map Visit.sighting).foldl Symbol.sight fresh := by
    simp [again]
  congr 2
  exact Registry.update_congr present same

/-- Cursors of any snapshots that are merged into a fresh symbol, one after another, leave
there what is told of all of them at once, and nothing else changes. It makes no difference
to merge one of them twice in a row. -/
theorem merging_summed_up (start : Extraction) (index : Nat) (fresh : Symbol)
    (visits : List Visit) (present : start.registry.get? index = some fresh)
    (blank : fresh.core = fresh) :
    (∃ merged : Symbol,
      runFrom start (mergeAll index visits) =
        (.ok (), { start with registry := start.registry.update index fun _ => merged }) ∧
      merged.core = fresh ∧ merged.Sums (visits.map Visit.sighting)) ∧
    ∀ earlier visit later, visits = earlier ++ visit :: later →
      runFrom start (mergeAll index (earlier ++ visit :: visit :: later)) =
        runFrom start (mergeAll index visits) := by
  refine ⟨⟨_, ?_, ?_, Symbol.sums_foldl_sight blank _⟩, ?_⟩
  · rw [runFrom_mergeAll]
    congr 2
    exact Registry.update_congr present rfl
  · rw [Symbol.core_foldl_sight, blank]
  · rintro earlier visit later rfl
    exact runFrom_mergeAll_twice present blank earlier visit later

/-- A function that is declared in a header, declared again in the unit, and defined
there, under another spelling of the file. -/
def respelled : Snapshot where
  raw := {
    mainFile := ⟨"src/m.cc"⟩
    cursors := #[{ kind := .translationUnit, children := [1, 2, 3] },
      { RawCursor.named .functionDecl "f" with
        semanticParent := some 0, definition := some 3, location := ⟨⟨"f.h"⟩, 1, 6, 5⟩
        brief := some "Old.", raw := some "/// Old." },
      { RawCursor.named .functionDecl "f" with
        semanticParent := some 0, definition := some 3, location := ⟨⟨"src/m.cc"⟩, 3, 6, 20⟩
        brief := some "New.", raw := some "/// New." },
      { RawCursor.named .functionDecl "f" with
        isDefinition := true, semanticParent := some 0, location := ⟨⟨"src//m.cc"⟩, 9, 6, 70⟩
        brief := some "", raw := some "//!" }] }
  checked := by rfl

/-- The same function in a later unit, which knows the definition by the usual path. -/
def revisited : Snapshot where
  raw := {
    mainFile := ⟨"n.cc"⟩
    cursors := #[{ kind := .translationUnit, children := [1] },
      { RawCursor.named .functionDecl "f" with
        isDefinition := true, semanticParent := some 0, location := ⟨⟨"src/m.cc"⟩, 9, 6, 70⟩ }] }
  checked := by rfl

def visitOf (snapshot : Snapshot) (index : Fin snapshot.raw.cursors.size) : Visit :=
  ⟨snapshot, ⟨index⟩⟩

/-- The definition counts as a declaration only after a main file has been seen, and its
first spelling stays. Of two comments of one length the one in the header stays. -/
theorem merging_summed_up_respelled :
    let unseen : Symbol := { part := ⟨"f", "f", "f"⟩, kind := .function "f", parent := none }
    let start : Extraction := { registry := Registry.enter {} (.ofPart unseen.part) unseen }
    let visits := [visitOf respelled ⟨1, by decide⟩, visitOf respelled ⟨2, by decide⟩,
      visitOf respelled ⟨3, by decide⟩, visitOf revisited ⟨1, by decide⟩]
    start.registry.get? 0 = some unseen ∧ unseen.core = unseen ∧
      runFrom start (mergeAll 0 (visits ++ [visitOf revisited ⟨1, by decide⟩])) =
        runFrom start (mergeAll 0 visits) ∧
      ∃ merged : Symbol,
        (runFrom start (mergeAll 0 visits)).2.registry.get? 0 = some merged ∧
        merged.Sums (visits.map Visit.sighting) ∧
        merged.declarations = [⟨⟨"f.h"⟩, 1, 6, 5⟩, ⟨⟨"src/m.cc"⟩, 3, 6, 20⟩,
          ⟨⟨"src//m.cc"⟩, 9, 6, 70⟩] ∧
        merged.definitions = [⟨⟨"src//m.cc"⟩, 9, 6, 70⟩] ∧
        merged.doc = ⟨"New.", "/// Old."⟩ := by
  intro unseen start visits
  have present : start.registry.get? 0 = some unseen := rfl
  obtain ⟨⟨merged, ran, -, sums⟩, twice⟩ := merging_summed_up start 0 unseen visits present rfl
  have reached : (runFrom start (mergeAll 0 visits)).2.registry.get? 0 = some merged := by
    rw [ran]
    rfl
  have told : ((runFrom start (mergeAll 0 visits)).2.registry.get? 0).map
      (fun symbol => (symbol.declarations, symbol.definitions, symbol.doc)) =
        some ([⟨⟨"f.h"⟩, 1, 6, 5⟩, ⟨⟨"src/m.cc"⟩, 3, 6, 20⟩, ⟨⟨"src//m.cc"⟩, 9, 6, 70⟩],
          [⟨⟨"src//m.cc"⟩, 9, 6, 70⟩], ⟨"New.", "/// Old."⟩) := by
    decide +kernel
  rw [reached] at told
  obtain ⟨declarations, definitions, doc⟩ := by simpa using told
  exact ⟨present, rfl, twice (visits.take 3) _ [] rfl, merged, reached, sums, declarations,
    definitions, doc⟩

end Extract

end SymbolAtlas
