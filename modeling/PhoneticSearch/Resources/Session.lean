import PhoneticSearch.Resources.Assembly

/-!
# Sessions

Resources in use: which lexicons have been loaded, and what the matcher remembers.

* `Session.matchLine`: the answers for each token of a line.
* `Session.lexicon`, `Session.allProblems`: accesses that load lexicons.
-/

namespace PhoneticSearch

structure Session where
  resources : Resources
  /-- Whether each lexicon has been loaded, in the order of the lexicons. -/
  loaded : List Bool
  matcher : Option Matcher
  memo : Memo

structure TokenAnswer where
  token : String
  transduction : Transduction
  candidates : List Candidate
  /-- The number of tokens remembered after this one. -/
  remembered : Nat

namespace Session

def start (resources : Resources) : Session :=
  ⟨resources, resources.lexicons.map fun _ => false, resources.matcher?, []⟩

def renewMatcher (session : Session) : Session :=
  { session with matcher := session.resources.matcher?, memo := [] }

def placeOf? (session : Session) (id : String) : Option Nat :=
  session.resources.lexicons.findIdx? fun lexicon => lexicon.name == id

def load (session : Session) (id : String) : Session :=
  match session.placeOf? id with
  | some place => { session with loaded := session.loaded.set place true }
  | none => session

/-- A lexicon that is asked for its entries, and whether it had been loaded before. -/
def lexicon (session : Session) (id : String) : Option (Bool × Lexicon) × Session :=
  match session.placeOf? id, session.resources.lexicon? id with
  | some place, some lexicon =>
    (some (session.loaded.getD place false, lexicon), session.load id)
  | _, _ => (none, session)

def allProblems (session : Session) : List Problem × Session :=
  (session.resources.allProblems, { session with loaded := session.loaded.map fun _ => true })

/-- The answers for a token. The lexicons are loaded when they have to be searched. -/
def matchToken (encoder : Encoder) (matcher : Matcher) (session : Session) (token : String) :
    TokenAnswer × Session :=
  let transduction := encoder.transduce token
  let session :=
    if matcher.searches session.memo token transduction.phones then
      matcher.lexicons.foldl (fun session lexicon => session.load lexicon.name) session
    else session
  let (candidates, memo) := matcher.matchToken session.memo token transduction.phones
  (⟨token, transduction, candidates, memo.length⟩, { session with memo })

def matchTokens (encoder : Encoder) (matcher : Matcher) :
    Session → List String → List TokenAnswer × Session
  | session, [] => ([], session)
  | session, token :: rest =>
    let (answer, session) := matchToken encoder matcher session token
    let (answers, session) := matchTokens encoder matcher session rest
    (answer :: answers, session)

/-- The answers for the tokens of a line; there are none without an input encoding or a matcher. -/
def matchLine (session : Session) (line : String) : Option (List TokenAnswer) × Session :=
  match session.resources.inputEncoder?, session.matcher with
  | some encoder, some matcher =>
    let (answers, session) :=
      matchTokens encoder matcher session (tokenize line session.resources.delimiters)
    (some answers, session)
  | _, _ => (none, session)

end Session

end PhoneticSearch
