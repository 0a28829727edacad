import PhoneticSearch.Proofs.CommandLine.Printing
import PhoneticSearch.Proofs.Lexicon.Materialised
import PhoneticSearch.Proofs.Lexicon.Spelled
import PhoneticSearch.Proofs.Text.Tokens
import PhoneticSearch.Proofs.Text.Utf8
import PhoneticSearch.Proofs.Warping.Table

/-!
# What matching text prints

* `Report.optionLines`, `Report.block`: the lines of an option and those of a token, written out.
* `HasTokens`: a line and its tokens, in words of the text alone.
* `Query.Answers`: the text to be matched and what it is matched with, as a configuration, a file
  and the arguments have it.
* `Session.Recalls`: the invariant of the loops over lines and tokens: what is remembered of a token
  is what would be worked out for it.
* `Command.run_matchTokens`: matching prints a block for each token, which does not depend on the
  other tokens, or it fails before it has printed anything.
-/

namespace PhoneticSearch

namespace Report

/-- Below an option, further in, stand the form in which it is shown, if that is not its headword,
and the lines of its definition. -/
def detailLines (entry : Entry) : List String :=
  let form := if entry.text = entry.headword then [] else ["      " ++ entry.text]
  form ++ entry.definition.elim [] fun definition =>
    (Text.lines definition.toList).map fun line => "      " ++ String.ofList line

/-- The lines of an option at its rank: its headword, its distance if it has one and its source, and
below them the details. -/
def optionLines (rank : Nat) (option : Candidate) : List String :=
  let distance := option.distance.elim "" fun value => " (d=" ++ Decimal.fixed 3 value ++ ")"
  let source := option.origin.name ++ if option.origin.isCurated then " (hypothesis)" else ""
  let head := "   " ++ toString rank ++ ". " ++ option.entry.headword ++ distance ++
    " [" ++ source ++ "]"
  head :: detailLines option.entry

/-- The block of a token by itself: its transduction, its phones if they are asked for, and its
options by rank. -/
def block (encoder : Encoder) (matcher : Matcher) (showPhones : Bool) (token : String) :
    List String :=
  let transduction := encoder.transduce token
  let phones :=
    if showPhones then
      transduction.phones.map fun phone =>
        "      [" ++ " ".intercalate (encoder.features.describe phone) ++ "]"
    else []
  let options := matcher.rank token (encoder.encode token)
  let answers :=
    if options = [] then ["   No matches found"]
    else (options.mapIdx fun place option => optionLines (place + 1) option).flatten
  (token ++ " → " ++ transduction.text) :: (phones ++ answers)

theorem origin_eq (source : Origin) :
    origin source = source.name ++ if source.isCurated then " (hypothesis)" else "" := by
  cases source with
  | lexicon name => exact String.append_empty.symm
  | readings name => rfl

theorem distance_eq (found : Option Float) :
    (found.map distance).getD "" =
      found.elim "" fun value => " (d=" ++ Decimal.fixed 3 value ++ ")" := by
  cases found with
  | none => rfl
  | some value => rfl

theorem details_eq (entry : Entry) :
    let form := if entry.text == entry.headword then [] else [entry.text]
    let definition := (Text.lines (entry.definition.getD "").toList).map String.ofList
    (form ++ definition).map (fun line => "      " ++ line) = detailLines entry := by
  intro form definition
  have hform : form.map (fun line => "      " ++ line) =
      if entry.text = entry.headword then [] else ["      " ++ entry.text] := by
    simp only [form, beq_iff_eq]
    split
    · rfl
    · rfl
  have hdefinition : definition.map (fun line => "      " ++ line) =
      entry.definition.elim [] fun definition =>
        (Text.lines definition.toList).map fun line => "      " ++ String.ofList line := by
    simp only [definition]
    cases entry.definition with
    | none => rfl
    | some text => exact List.map_map
  rw [List.map_append, hform, hdefinition, detailLines]

theorem candidate_eq (rank : Nat) (option : Candidate) :
    candidate rank option = optionLines rank option := by
  rw [optionLines, ← details_eq, ← distance_eq, ← origin_eq]
  rfl

theorem numbered_eq {α : Type} (lines : Nat → α → List String) (items : List α) :
    numbered lines items = (items.mapIdx fun place item => lines (place + 1) item).flatten := by
  rw [numbered, List.flatMap_def, List.zipIdx_eq_map_add, List.map_map, List.mapIdx_eq_zipIdx_map]
  congr 2
  funext item
  simp only [Function.comp_apply, Nat.add_comm]

theorem indented_phone (features : FeatureSet) (vector : Phone) :
    "      " ++ phone features vector =
      "      [" ++ " ".intercalate (features.describe vector) ++ "]" := by
  have hopen : "      [" = "      " ++ "[" := rfl
  rw [phone, hopen, String.append_assoc, String.append_assoc, String.append_assoc]

/-- What is printed for a token is its block. -/
theorem tokenBlock_eq (encoder : Encoder) (matcher : Matcher) (showPhones : Bool) (token : String)
    (remembered : Nat) :
    let transduction := encoder.transduce token
    tokenBlock encoder.features showPhones
        ⟨token, transduction, matcher.rank token transduction.phones, remembered⟩ =
      block encoder matcher showPhones token := by
  intro transduction
  simp only [tokenBlock, numbered_eq, candidate_eq, indented_phone, List.isEmpty_iff]
  rfl

end Report

/-- The tokens of a line, which is cut at its blanks and delimiters. -/
def HasTokens (delimiters line : String) (tokens : List String) : Prop :=
  Text.CutInto (fun c => Text.isBlank c || delimiters.toList.contains c) line.toList
    (tokens.map String.toList)

theorem hasTokens_iff {delimiters line : String} {tokens : List String} :
    HasTokens delimiters line tokens ↔ tokenize line delimiters = tokens := by
  rw [tokenize_eq_iff]
  exact Text.cutInto_iff

namespace Query

/-- The lines of a file, if it can be read; no file has no lines. -/
def linesOf? (files : Files) (file : Option String) : Option (List String) :=
  match file with
  | none => some []
  | some path => (files.readText path).toOption.map fun text =>
      (Text.lines text.toList).map String.ofList

/-- The configuration can be loaded and has an input encoding and a matcher, the file can be read,
and there is a line to match. -/
structure Answers (files : Files) (config : String) (file : Option String) (texts : List String)
    (query : Query) : Prop where
  resources_eq : Resources.ofPath files config = .ok query.resources
  encoder_eq : query.resources.inputEncoder? = some query.encoder
  matcher_eq : query.resources.matcher? = some query.matcher
  lines_eq : (linesOf? files file).map (· ++ texts) = some query.lines
  lines_ne : query.lines ≠ []

theorem Answers.unique {files : Files} {config : String} {file : Option String}
    {texts : List String} {query other : Query} (h : query.Answers files config file texts)
    (hother : other.Answers files config file texts) : query = other := by
  obtain ⟨resources, encoder, matcher, lines⟩ := query
  obtain ⟨resources', encoder', matcher', lines'⟩ := other
  obtain rfl : resources = resources' :=
    Except.ok.inj (h.resources_eq.symm.trans hother.resources_eq)
  obtain rfl : encoder = encoder' := Option.some.inj (h.encoder_eq.symm.trans hother.encoder_eq)
  obtain rfl : matcher = matcher' := Option.some.inj (h.matcher_eq.symm.trans hother.matcher_eq)
  obtain rfl : lines = lines' := Option.some.inj (h.lines_eq.symm.trans hother.lines_eq)
  rfl

/-- The blocks of all tokens of all lines. -/
def report (query : Query) (showPhones : Bool) : List String :=
  query.lines.flatMap fun line =>
    (tokenize line query.resources.delimiters).flatMap
      (Report.block query.encoder query.matcher showPhones)

/-- Each answer that is remembered for a token is the one for its phones. -/
def Recalls (query : Query) (session : Session) : Prop :=
  ∀ token options, session.memo.lookup token = some options →
    options = query.matcher.rank token (query.encoder.encode token)

end Query

/-! ## The loops over lines and tokens -/

theorem Session.memo_load (session : Session) (id : String) :
    (session.load id).memo = session.memo := by
  rw [load]
  split
  · rfl
  · rfl

theorem Session.memo_foldl_load (session : Session) (lexicons : List Lexicon) :
    (lexicons.foldl (fun session lexicon => session.load lexicon.name) session).memo =
      session.memo := by
  induction lexicons generalizing session with
  | nil => rfl
  | cons lexicon lexicons ih => rw [List.foldl_cons, ih, memo_load]

namespace Query

open Printing

variable {query : Query} {showPhones : Bool}

theorem recalls_start (query : Query) (resources : Resources) :
    query.Recalls (.start resources) := by
  intro token options h
  cases h

/-- Through its memory a matcher gives the answer that it gives without, and what it remembers
stays right. -/
theorem Recalls.matchToken {session : Session} (h : query.Recalls session) (token : String) :
    let transduction := query.encoder.transduce token
    let options := query.matcher.rank token transduction.phones
    ∃ remembered next, query.Recalls next ∧
      session.matchToken query.encoder query.matcher token =
        (⟨token, transduction, options, remembered⟩, next) := by
  intro transduction options
  have hmemo : ∀ searched : Bool,
      (if searched then
        query.matcher.lexicons.foldl (fun session lexicon => session.load lexicon.name) session
      else session).memo = session.memo := by
    intro searched
    cases searched with
    | true => exact session.memo_foldl_load query.matcher.lexicons
    | false => rfl
  simp only [Session.matchToken, hmemo]
  cases hcall : query.matcher.matchToken session.memo token transduction.phones with
  | mk answers memo =>
    have hfst := query.matcher.fst_matchToken session.memo token transduction.phones
    have hlookup := fun asked =>
      query.matcher.lookup_matchToken session.memo token asked transduction.phones
    simp only [hcall] at hfst hlookup
    have hanswers : answers = options := by
      rw [hfst]
      cases hknown : session.memo.lookup token with
      | some known => exact h token known hknown
      | none => rfl
    refine ⟨memo.length, _, ?_, by rw [← hanswers]⟩
    intro asked known hasked
    rw [hlookup] at hasked
    split at hasked
    · next hsame =>
      rw [hsame, ← Option.some.inj hasked]
      exact hanswers
    · exact h asked known hasked

/-- A token is answered by its own block, and what is remembered stays right. -/
theorem prints_printToken (session : Session) (token : String) (h : query.Recalls session) :
    Prints (Command.printToken query showPhones session token)
      (Report.block query.encoder query.matcher showPhones token) query.Recalls := by
  intro printed
  obtain ⟨remembered, next, hnext, hanswer⟩ := h.matchToken token
  refine ⟨next, hnext, ?_⟩
  rw [Command.printToken, hanswer, ← Report.tokenBlock_eq _ _ _ _ remembered]
  exact after_bind_ok (after_print _ _) _

theorem prints_printLine (session : Session) (line : String) (h : query.Recalls session) :
    Prints (Command.printLine query showPhones session line)
      ((tokenize line query.resources.delimiters).flatMap
        (Report.block query.encoder query.matcher showPhones)) query.Recalls :=
  Prints.foldlM prints_printToken _ h

theorem prints_lines (query : Query) (showPhones : Bool) :
    Prints (query.lines.foldlM (Command.printLine query showPhones) (.start query.resources))
      (query.report showPhones) query.Recalls :=
  Prints.foldlM prints_printLine _ (recalls_start query query.resources)

end Query

/-! ## What can fail -/

namespace Command

open Printing

variable {files : Files} {config : String} {file : Option String} {texts : List String}

theorem after_loadResources_ok {resources : Resources}
    (h : Resources.ofPath files config = .ok resources) (printed : Printed) :
    after (loadResources files config) printed =
      (.ok resources, printed.addWarnings (warnings resources)) := by
  rw [loadResources, resourcesOf, h]
  rfl

theorem after_loadResources_error {cause : LoadFault}
    (h : Resources.ofPath files config = .error cause) (printed : Printed) :
    after (loadResources files config) printed =
      (.error (.configuration config cause), printed) := by
  rw [loadResources, resourcesOf, h]
  rfl

theorem after_queryLines_some {read : List String} (h : Query.linesOf? files file = some read)
    (printed : Printed) :
    after (queryLines files file texts) printed = (.ok (read ++ texts), printed) := by
  cases file with
  | none =>
    cases h
    rfl
  | some path =>
    rw [queryLines]
    cases htext : files.readText path with
    | error cause => simp [Query.linesOf?, htext, Except.toOption] at h
    | ok text =>
      simp only [Query.linesOf?, htext, Except.toOption, Option.map_some, Option.some.injEq] at h
      rw [← h]
      rfl

theorem after_queryLines_none (h : Query.linesOf? files file = none) (printed : Printed) :
    ∃ fault, after (queryLines files file texts) printed = (.error fault, printed) := by
  cases file with
  | none => cases h
  | some path =>
    rw [queryLines]
    cases htext : files.readText path with
    | error cause => exact ⟨fileFault path cause, rfl⟩
    | ok text => simp [Query.linesOf?, htext, Except.toOption] at h

theorem after_prepare_ok {query : Query} (h : query.Answers files config file texts)
    (printed : Printed) :
    after (prepare files config file texts) printed =
      (.ok query, printed.addWarnings (warnings query.resources)) := by
  obtain ⟨hresources, hencoder, hmatcher, hlines, hne⟩ := h
  obtain ⟨read, hread, hall⟩ := Option.map_eq_some_iff.mp hlines
  obtain ⟨resources, encoder, matcher, lines⟩ := query
  simp only at hresources hencoder hmatcher hall hne
  rw [prepare, after_bind_ok (after_loadResources_ok hresources printed)]
  simp only [hencoder, hmatcher]
  rw [after_bind_ok (after_queryLines_some hread _), hall]
  cases lines with
  | nil => exact absurd rfl hne
  | cons line lines => rfl

/-- If there is no query, a fault says so. -/
theorem after_prepare_error (h : ∀ query : Query, ¬ query.Answers files config file texts)
    (printed : Printed) :
    ∃ fault lines,
      after (prepare files config file texts) printed =
        (.error fault, printed.addWarnings lines) := by
  rw [prepare]
  cases hresources : Resources.ofPath files config with
  | error cause =>
    refine ⟨.configuration config cause, [], ?_⟩
    rw [after_bind_error (after_loadResources_error hresources printed)]
    simp [Printed.addWarnings]
  | ok resources =>
    rw [after_bind_ok (after_loadResources_ok hresources printed)]
    cases hencoder : resources.inputEncoder? with
    | none => exact ⟨.noInputEncoding, warnings resources, rfl⟩
    | some encoder =>
      cases hmatcher : resources.matcher? with
      | none => exact ⟨.noMatcher, warnings resources, rfl⟩
      | some matcher =>
        cases hread : Query.linesOf? files file with
        | none =>
          obtain ⟨fault, hfault⟩ :=
            after_queryLines_none hread (printed.addWarnings (warnings resources))
          exact ⟨fault, warnings resources, after_bind_error hfault _⟩
        | some read =>
          refine ⟨.nothingToMatch, warnings resources, ?_⟩
          rw [after_bind_ok (after_queryLines_some hread _)]
          cases hlines : read ++ texts with
          | nil => rfl
          | cons line lines =>
            refine absurd ?_ (h ⟨resources, encoder, matcher, read ++ texts⟩)
            exact ⟨hresources, hencoder, hmatcher, by rw [hread]; rfl, by simp [hlines]⟩

end Command

/-! ## What is printed -/

namespace Command

open Printing

theorem run_matchTokens_of_answers {files : Files} {config : String} {file : Option String}
    {texts : List String} {query : Query} (h : query.Answers files config file texts)
    (showPhones : Bool) :
    run files (.matchTokens config file showPhones texts) =
      ⟨query.report showPhones, warnings query.resources, none⟩ := by
  let warned := Printed.addWarnings ⟨#[], #[]⟩ (warnings query.resources)
  obtain ⟨session, -, hlines⟩ := query.prints_lines showPhones warned
  have htask : after (matchLines files config file showPhones texts) ⟨#[], #[]⟩ =
      (.ok (), warned.add (query.report showPhones)) := by
    rw [matchLines, after_bind_ok (after_prepare_ok h _), after_bind_ok hlines]
    rfl
  rw [run, Outcome.ofPrinting_ok htask]
  simp [warned, Printed.add, Printed.addWarnings]

theorem run_matchTokens_of_not_answers {files : Files} {config : String} {file : Option String}
    {texts : List String} (h : ∀ query : Query, ¬ query.Answers files config file texts)
    (showPhones : Bool) :
    ∃ fault lines, run files (.matchTokens config file showPhones texts) =
      ⟨[], lines, some fault⟩ := by
  obtain ⟨fault, lines, hprepare⟩ := after_prepare_error h ⟨#[], #[]⟩
  have htask : after (matchLines files config file showPhones texts) ⟨#[], #[]⟩ =
      (.error fault, Printed.addWarnings ⟨#[], #[]⟩ lines) := by
    rw [matchLines, after_bind_error hprepare]
  refine ⟨fault, lines, ?_⟩
  rw [run, Outcome.ofPrinting_error htask]
  simp [Printed.addWarnings]

/-- Text is matched if there is a query, and if there is none that fails before anything is printed.
What is printed is a block for each token of each line in order, which depends on the token, the
input encoder and the matcher only. -/
theorem run_matchTokens (files : Files) (config : String) (file : Option String)
    (showPhones : Bool) (texts : List String) :
    let outcome := run files (.matchTokens config file showPhones texts)
    (∃ (query : Query) (tokens : String → List String),
        query.Answers files config file texts ∧ outcome.failure = none ∧
          (∀ line, HasTokens query.resources.delimiters line (tokens line)) ∧
          Outcome.printed outcome.output = String.join (query.lines.map fun line =>
            String.join ((tokens line).map fun token =>
              Outcome.printed (Report.block query.encoder query.matcher showPhones token)))) ∨
      (∀ query : Query, ¬ query.Answers files config file texts) ∧
        (∃ fault, outcome.failure = some fault) ∧ outcome.output = [] := by
  intro outcome
  by_cases hquery : ∃ query : Query, query.Answers files config file texts
  · left
    obtain ⟨query, hanswers⟩ := hquery
    have houtcome : outcome = _ := run_matchTokens_of_answers hanswers showPhones
    refine ⟨query, fun line => tokenize line query.resources.delimiters, hanswers,
      by rw [houtcome], fun line => hasTokens_iff.mpr rfl, ?_⟩
    rw [houtcome, Query.report, Outcome.printed_flatMap]
    simp only [Outcome.printed_flatMap]
  · right
    have hnone : ∀ query : Query, ¬ query.Answers files config file texts := by
      intro query hanswers
      exact hquery ⟨query, hanswers⟩
    obtain ⟨fault, lines, hrun⟩ := run_matchTokens_of_not_answers hnone showPhones
    have houtcome : outcome = _ := hrun
    refine ⟨hnone, ⟨fault, by rw [houtcome]⟩, by rw [houtcome]⟩

end Command

/-! ## A dictionary of two words -/

namespace TwoWords

open Settings

/-- An `h` voices what stands before it, and has no phone of its own. -/
def letters : EncodingSettings :=
  ⟨"letters", "f", none, [⟨"_h", none, none, some (.single ["+voiced"]), none⟩]⟩

def notes : ReadingTableSettings :=
  ⟨"notes", none, [⟨none, [⟨.one "ph", "ko", some "to go\nto come"⟩]⟩]⟩

def configuration : Configuration where
  featureSets := [.inPlace ⟨"f", none, none, none, none, ["voiced"]⟩]
  encodings := [.inPlace letters]
  lexicons := [⟨"words", "cmudict", "words.txt", "letters", none, none⟩]
  hypotheses := [notes]
  matcher := some ⟨["words"], none, none, some "notes", none, none⟩
  input := some ⟨"letters", none⟩

/-- The configuration as it is written. -/
def config : String :=
  "\x7b\"featureSets\": [\x7b\"id\": \"f\", \"features\": [\"voiced\"]\x7d],
    \"encodings\": [\x7b\"id\": \"letters\", \"features\": \"f\",
      \"patterns\": [\x7b\"input\": \"_h\", \"features\": [\"+voiced\"]\x7d]\x7d],
    \"lexicons\": [\x7b\"id\": \"words\", \"kind\": \"cmudict\", \"path\": \"words.txt\",
      \"encoding\": \"letters\"\x7d],
    \"hypotheses\": [\x7b\"id\": \"notes\", \"groups\": [\x7b\"entries\": [\x7b\"input\": \"ph\",
      \"lemma\": \"ko\", \"definition\": \"to go\\nto come\"\x7d]\x7d]\x7d],
    \"matcher\": \x7b\"lexicons\": [\"words\"], \"hypotheses\": \"notes\"\x7d,
    \"input\": \x7b\"encoding\": \"letters\"\x7d\x7d"

def words : String := "KA ph\nKO k\n"

def files : Files :=
  .ofReadings [("config.json", .ok (Utf8.ascii config)), ("words.txt", .ok (Utf8.ascii words)),
    ("lines.txt", .ok (Utf8.ascii "ph h\n"))]

def encoder : Encoder :=
  .ofEncoding (.ofSettings (.ofGroups "f" ["voiced"] 1 (-1) none) none letters)

def lexicon : Lexicon := .ofSource "words" encoder files (.file .pronunciations "words.txt" none)

def table : ReadingTable := .ofSettings none notes

def matcher : Matcher := ⟨[lexicon], some table, 6, 0, none⟩

def query : Query := ⟨.assemble files "" configuration, encoder, matcher, ["ph h", "ph"]⟩

set_option maxRecDepth 4096 in
theorem read_config : Configuration.decoder.read config = .ok configuration := by
  -- the characters of the literal as they stand, instead of from their bytes
  have htext : config.toList = _ := String.toList_ofList
  rw [Json.Decoder.read, Json.Document.ofText, htext]
  rfl

set_option maxRecDepth 4096 in
theorem isAscii_config : Utf8.isAscii config = true := by
  have htext : config.toList = _ := String.toList_ofList
  rw [Utf8.isAscii, htext]
  rfl

theorem load_config : Resources.ofPath files "config.json" = .ok query.resources := by
  have hread : files.readText "config.json" = .ok config :=
    Files.readText_ascii isAscii_config rfl
  have hload : files.load Configuration.decoder "config.json" = .ok configuration := by
    simp only [Files.load, hread, read_config]
    rfl
  have hparent : Path.parent "config.json" = "" := rfl
  rw [Resources.ofPath, hload, hparent]
  rfl

theorem answers_query : query.Answers files "config.json" (some "lines.txt") ["ph"] where
  resources_eq := load_config
  encoder_eq := rfl
  matcher_eq := rfl
  lines_eq := by
    have hread : files.readText "lines.txt" = .ok "ph h\n" :=
      Files.readText_ascii rfl rfl
    rw [Query.linesOf?, hread]
    rfl
  lines_ne := by simp [query]

theorem encode_eq :
    encoder.encode "ph" = [[1]] ∧ encoder.encode "k" = [[0]] ∧ encoder.encode "h" = [] := by
  decide +kernel

/-! ### The options -/

def ka : Entry := ⟨"KA", "ph", none, [[1]]⟩

def ko : Entry := ⟨"KO", "k", none, [[0]]⟩

theorem entries_lexicon : lexicon.entries = [ka, ko] := by
  have htext : files.readLossy "words.txt" = .ok words :=
    Files.readLossy_ascii rfl rfl
  have hread : Format.pronunciations.parse encoder none words =
      .ok ⟨[⟨"KA", "ph", none, ["ph"].flatMap encoder.encode⟩,
        ⟨"KO", "k", none, ["k"].flatMap encoder.encode⟩], []⟩ := rfl
  have hparse : Format.pronunciations.parse encoder none words = .ok ⟨[ka, ko], []⟩ := by
    rw [hread, List.flatMap_singleton, List.flatMap_singleton, encode_eq.1, encode_eq.2.1]
    rfl
  have hcontents : lexicon.contents.get = Contents.ofLoad "words" (.ok ⟨[ka, ko], []⟩) := by
    show Contents.ofLoad "words" ((Source.file .pronunciations "words.txt" none).load files _) = _
    rw [Source.load_file_of_parse htext hparse]
  rw [Lexicon.entries, hcontents]
  exact (Contents.ofLoad_of_nodup "words" (by simp [ka, ko])).1

theorem distance_eq :
    matcher.distance [[1]] ka.phones = 0 ∧ matcher.distance [[1]] ko.phones = 1 := by
  simp only [Matcher.distance, sequenceDistance, ka, ko, Warping.distance_singleton, phoneDistance,
    squaredDifferences, squaredDifferences.square]
  decide +kernel

/-- The nearer word comes first, as it does in the dictionary. -/
theorem nearest_ph :
    matcher.nearest [[1]] = [⟨.lexicon "words", ka, some 0⟩, ⟨.lexicon "words", ko, some 1⟩] := by
  have hlexicons : matcher.lexicons = [lexicon] := rfl
  have hcount : matcher.optionCount = 6 := rfl
  have hname : lexicon.name = "words" := rfl
  have hka : ka.phones ≠ [] := by simp [ka]
  have hko : ko.phones ≠ [] := by simp [ko]
  have hsorted : List.mergeSort [(⟨0, ("words", ka)⟩ : Ranked (String × Entry)), ⟨1, ("words", ko)⟩]
      (fun a b => decide (a.key ≤ b.key)) = [⟨0, ("words", ka)⟩, ⟨1, ("words", ko)⟩] :=
    List.mergeSort_of_pairwise (by decide)
  simp [Matcher.nearest, Matcher.offerEntries, hlexicons, entries_lexicon, hcount, hname, hka, hko,
    distance_eq, Selection.offer, Selection.empty, hsorted]

theorem curated_ph :
    matcher.curated "ph" [[1]] =
      [⟨.readings "notes", ⟨"ko", "ko", some "to go\nto come", []⟩, none⟩] := by
  have hlookup : table.lookup "ph" = [⟨none, ⟨"ko", "ko", some "to go\nto come", []⟩⟩] :=
    (ReadingTable.holds_ofSettings none notes).lookup_eq "ph"
  show (table.lookup "ph").map _ = _
  rw [hlookup]
  rfl

theorem rank_ph :
    matcher.rank "ph" (encoder.encode "ph") =
      [⟨.readings "notes", ⟨"ko", "ko", some "to go\nto come", []⟩, none⟩,
        ⟨.lexicon "words", ka, some 0⟩, ⟨.lexicon "words", ko, some 1⟩] := by
  have hquery : matcher.query [[1]] = [[1]] := rfl
  rw [encode_eq.1, Matcher.rank, hquery, curated_ph, nearest_ph]
  rfl

theorem rank_h : matcher.rank "h" (encoder.encode "h") = [] := by
  have hlookup : table.lookup "h" = [] := (ReadingTable.holds_ofSettings none notes).lookup_eq "h"
  have hcurated : matcher.curated "h" [] = [] := by
    show (table.lookup "h").map _ = _
    rw [hlookup]
    rfl
  have hquery : matcher.query [] = [] := rfl
  rw [encode_eq.2.2, Matcher.rank, hquery, hcurated]
  rfl

theorem block_ph :
    Report.block encoder matcher true "ph" =
      ["ph → ph", "      [+voiced]", "   1. ko [notes (hypothesis)]", "      to go",
        "      to come", "   2. KA (d=0.000) [words]", "      ph", "   3. KO (d=1.000) [words]",
        "      k"] := by
  rw [Report.block, rank_ph]
  decide +kernel

theorem block_h : Report.block encoder matcher true "h" = ["h → h", "   No matches found"] := by
  rw [Report.block, rank_h]
  decide +kernel

end TwoWords

/-- A line of a file and a text, in which a token is asked for again. -/
theorem Command.run_matchTokens_twoWords :
    let outcome :=
      run TwoWords.files (.matchTokens "config.json" (some "lines.txt") true ["ph"])
    let answers :=
      "ph → ph\n" ++
      "      [+voiced]\n" ++
      "   1. ko [notes (hypothesis)]\n" ++
      "      to go\n" ++
      "      to come\n" ++
      "   2. KA (d=0.000) [words]\n" ++
      "      ph\n" ++
      "   3. KO (d=1.000) [words]\n" ++
      "      k\n"
    let noAnswers := "h → h\n" ++ "   No matches found\n"
    outcome.failure = none ∧
      Outcome.printed outcome.output = answers ++ noAnswers ++ answers := by
  intro outcome answers noAnswers
  obtain ⟨query, tokens, hanswers, hfailure, htokens, houtput⟩ | ⟨hnone, -⟩ :=
    run_matchTokens TwoWords.files "config.json" (some "lines.txt") true ["ph"]
  · obtain rfl := hanswers.unique TwoWords.answers_query
    have hfirst : tokens "ph h" = ["ph", "h"] :=
      (hasTokens_iff.mp (htokens "ph h")).symm.trans rfl
    have hlast : tokens "ph" = ["ph"] :=
      (hasTokens_iff.mp (htokens "ph")).symm.trans rfl
    refine ⟨hfailure, houtput.trans ?_⟩
    simp only [TwoWords.query, List.map_cons, List.map_nil, hfirst, hlast, TwoWords.block_ph,
      TwoWords.block_h]
    rfl
  · exact absurd TwoWords.answers_query (hnone _)

end PhoneticSearch
