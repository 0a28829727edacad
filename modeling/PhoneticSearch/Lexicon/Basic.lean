import PhoneticSearch.Lexicon.Source
import Std.Data.HashMap

/-!
# Lexicons

A lexicon holds each headword once: of several entries with one headword the first counts.

* `Supply`: what a source gives when it is asked.
* `Contents.ofSupply`: the entries of a lexicon, the place of each headword among them, and the
  problems.
* `Lexicon`: a name, an encoder and contents that are worked out when they are first asked for.
* `LazyLexicon.access`: a lexicon in use; whether its contents have been asked for can be seen.
-/

namespace PhoneticSearch

/-- What a source gives: issues, and then its entries or the reason why there are none. -/
structure Supply where
  issues : List Issue
  entries : Except LoadFault (List Entry)

def Supply.ofLoad : Except LoadFault Parsed → Supply
  | .ok parsed => ⟨parsed.issues, .ok parsed.entries⟩
  | .error fault => ⟨[], .error fault⟩

structure Contents where
  entries : List Entry
  /-- The place of each headword among the entries. -/
  places : Std.HashMap String Nat
  problems : List Problem
  place_lt : ∀ {headword : String} {place : Nat},
    places[headword]? = some place → place < entries.length

namespace Contents

/-- Entries sorted into those with a new headword and the headwords of the others. -/
structure Sifted where
  places : Std.HashMap String Nat
  kept : Array Entry
  repeated : Array String
  place_lt : ∀ {headword : String} {place : Nat},
    places[headword]? = some place → place < kept.size

def Sifted.empty : Sifted := ⟨∅, #[], #[], by simp⟩

def Sifted.add (sifted : Sifted) (entry : Entry) : Sifted :=
  if sifted.places.contains entry.headword then
    { sifted with repeated := sifted.repeated.push entry.headword }
  else
    { sifted with
      places := sifted.places.insert entry.headword sifted.kept.size
      kept := sifted.kept.push entry
      place_lt := by
        intro headword place h
        rw [Array.size_push]
        rw [Std.HashMap.getElem?_insert] at h
        split at h
        · cases h
          exact Nat.lt_succ_self _
        · exact Nat.lt_succ_of_lt (sifted.place_lt h) }

def sift (entries : List Entry) : Sifted := entries.foldl Sifted.add .empty

/-- The contents that some entries make, after problems found before. -/
def ofSifted (name : String) (issues : List Issue) (sifted : Sifted) : Contents where
  entries := sifted.kept.toList
  places := sifted.places
  problems :=
    (issues ++ sifted.repeated.toList.map Issue.duplicateHeadword).map fun issue =>
      ⟨.lexicon name, issue⟩
  place_lt := fun h => by simpa using sifted.place_lt h

def ofSupply (name : String) (supply : Supply) : Contents :=
  match supply.entries with
  | .ok entries => ofSifted name supply.issues (sift entries)
  | .error fault => ofSifted name (supply.issues ++ [.lexiconUnread fault]) (sift [])

def ofLoad (name : String) (loaded : Except LoadFault Parsed) : Contents :=
  ofSupply name (.ofLoad loaded)

def find? (contents : Contents) (headword : String) : Option Entry :=
  match h : contents.places[headword]? with
  | some place => some (contents.entries.get ⟨place, contents.place_lt h⟩)
  | none => none

end Contents

/-- A lexicon. Its contents are worked out at most once, when they are first asked for. -/
structure Lexicon where
  name : String
  encoder : Encoder
  source : Source
  contents : Thunk Contents

namespace Lexicon

def ofSource (name : String) (encoder : Encoder) (files : Files) (source : Source) : Lexicon :=
  ⟨name, encoder, source, Thunk.mk fun _ => Contents.ofLoad name (source.load files encoder)⟩

def ofEntries (name : String) (encoder : Encoder) (entries : List Entry) : Lexicon :=
  ofSource name encoder ⟨fun _ => .error .notFound⟩ (.memory entries)

def entries (lexicon : Lexicon) : List Entry := lexicon.contents.get.entries

def problems (lexicon : Lexicon) : List Problem := lexicon.contents.get.problems

end Lexicon

/-- A lexicon in use, with its contents as soon as something has asked for them. -/
structure LazyLexicon where
  name : String
  encoder : Encoder
  contents : Option Contents

namespace LazyLexicon

/-- What can be seen without the contents. -/
inductive Glance where
  | isLoaded
  | summary
  | names

/-- What the contents answer. -/
inductive Question where
  | size
  | isEmpty
  | find (headword : String)
  | problems
  | entries

inductive Access where
  | glance (glance : Glance)
  | ask (question : Question)

inductive Reply where
  | flag (value : Bool)
  | text (value : String)
  | size (value : Nat)
  | found (entry : Option Entry)
  | problems (values : List Problem)
  | entries (values : List Entry)
  | names (lexicon encoding : String)

/-- A lexicon in one line: its names, and its size if it is loaded. -/
def summaryOf (name encoding : String) (size : Option Nat) : String :=
  let loaded :=
    match size with
    | some count => s!"Some({count})"
    | none => "None"
  "Lexicon \x7b name: " ++ Text.quoted name ++ ", encoding: " ++ Text.quoted encoding ++
    ", loaded: " ++ loaded ++ " \x7d"

def glance (lazy : LazyLexicon) : Glance → Reply
  | .isLoaded => .flag lazy.contents.isSome
  | .summary =>
    .text (summaryOf lazy.name lazy.encoder.encoding.name
      (lazy.contents.map fun contents => contents.entries.length))
  | .names => .names lazy.name lazy.encoder.encoding.name

def answer (contents : Contents) : Question → Reply
  | .size => .size contents.entries.length
  | .isEmpty => .flag contents.entries.isEmpty
  | .find headword => .found (contents.find? headword)
  | .problems => .problems contents.problems
  | .entries => .entries contents.entries

/-- The contents, which the source has to supply if nothing has asked for them before. -/
def load (lazy : LazyLexicon) (supply : Thunk Supply) : Contents :=
  match lazy.contents with
  | some contents => contents
  | none => .ofSupply lazy.name supply.get

/-- One access, and what the source would supply at its time. -/
def access (lazy : LazyLexicon) (supply : Thunk Supply) : Access → Reply × LazyLexicon
  | .glance glance => (lazy.glance glance, lazy)
  | .ask question =>
    let contents := lazy.load supply
    (answer contents question, { lazy with contents := some contents })

def ofLexicon (lexicon : Lexicon) : LazyLexicon := ⟨lexicon.name, lexicon.encoder, none⟩

/-- With the same files a lexicon in use comes to the contents of the lexicon. -/
theorem load_ofLexicon (name : String) (encoder : Encoder) (files : Files) (source : Source) :
    (ofLexicon (.ofSource name encoder files source)).load
        (Thunk.mk fun _ => .ofLoad (source.load files encoder)) =
      (Lexicon.ofSource name encoder files source).contents.get := rfl

end LazyLexicon

end PhoneticSearch
