import ResponseTypes.Files
import ResponseTypes.Host

/-!
# Sessions

A session is a system as a value: its files, a clock that stands still, and what has been put out.
What a run does on it is a function from one session to the next.

## Main definitions

- `Session`, and the host that it makes.
- `Session.events`, `Session.lines`: what has been put out.
-/

namespace ResponseTypes

/-- Something that a run puts out. -/
inductive Utterance where
  | event (event : Event)
  | line (text : String)
deriving DecidableEq, Repr, Inhabited

/-- A system as a value. -/
structure Session where
  files : Files
  /-- the time by the clock -/
  now : Int
  /-- the same time as people write it -/
  stamp : String
  /-- what has been put out so far -/
  output : List Utterance := []
deriving Repr, Inhabited

namespace Session

/-- The events among what has been put out. -/
def events (session : Session) : List Event :=
  session.output.filterMap fun
    | .event event => some event
    | .line _ => none

/-- The lines among what has been put out. -/
def lines (session : Session) : List String :=
  session.output.filterMap fun
    | .line text => some text
    | .event _ => none

/-- An answer that changes nothing. -/
def ask {α : Type} (answer : Session → α) : StateM Session α :=
  fun session => (answer session, session)

/-- A change of the files, unless it is refused. -/
def change (step : Session → Except FileFault Files) : StateM Session (Except FileFault Unit) :=
  fun session =>
    match step session with
    | .ok files => (.ok (), { session with files := files })
    | .error fault => (.error fault, session)

/-- Puts something out. -/
def put (utterance : Utterance) : StateM Session Unit :=
  fun session => ((), { session with output := session.output ++ [utterance] })

instance : Host (StateM Session) where
  isDirectory path := ask (·.files.isDirectory path)
  isFile path := ask (·.files.isFile path)
  exists? path := ask (·.files.exists? path)
  modified? path := ask (·.files.modified? path)
  list path := ask (·.files.list path)
  read path := ask (·.files.read path)
  write path content := change fun session => session.files.write path content session.now
  makeDirectory path := change fun session => session.files.makeDirectory path session.now
  now := ask (·.now)
  stamp := ask (·.stamp)
  report event := put (.event event)
  say text := put (.line text)

end Session
end ResponseTypes
