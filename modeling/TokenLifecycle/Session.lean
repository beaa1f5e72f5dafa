import TokenLifecycle.Directory.Roster
import TokenLifecycle.Gate

namespace TokenLifecycle

-- What can be done to a clock that is moved by hand.
inductive Clock.Move where
  | set (reading : Instant)
  | forward (amount : Span)
  | back (amount : Span)

-- A clock that stands still until it is moved, in either direction.
structure Clock where
  reading : Instant

namespace Clock

def move (c : Clock) : Move → Clock
  | .set t     => ⟨t⟩
  | .forward d => ⟨c.reading + d⟩
  | .back d    => ⟨c.reading - d⟩

-- The reading at the start and after each move.
def readings (c : Clock) : List Move → List Instant
  | []      => [c.reading]
  | m :: ms => c.reading :: (c.move m).readings ms

end Clock

-- A gate before a roster, with a clock that is moved by hand and the tokens that were kept.
structure Session where
  roster   : Roster
  settings : Settings
  target   : String
  clock    : Clock
  tokens   : Std.HashMap String String := ∅

namespace Session

-- A token is given as a text or by the name under which it was kept. A name under which none was
-- kept stands for the empty text.
inductive Presented where
  | text (token : String)
  | kept (name : String)

inductive Step where
  | insert (identity secret : String)
  | remove (identity : String)
  | goOffline
  | attempt (identity secret : String)
  | signIn (identity secret : String) (target : Option String) (keep : Option String)
  | renew (token : Presented) (extension : Span) (keep : Option String)
  | judge (token : Presented)
  | configure (settings : Settings)
  | retarget (target : String)
  | move (m : Clock.Move)

inductive Answer where
  | done
  | previous (secret : Option String)
  | attempted (outcome : Except DirectoryError Unit)
  | produced (outcome : Except GateError String)
  | judged (valid available : Bool)
  | configured (settings : Settings)
  | retargeted (target : String)

def gate (s : Session) : Gate Roster where
  directory := s.roster
  target    := s.target
  settings  := s.settings

def now (s : Session) : Instant :=
  s.clock.reading

def token (s : Session) : Presented → String
  | .text token => token
  | .kept name  => s.tokens.getD name ""

-- Keeps the token that was produced, if any. Otherwise the name keeps the token it has.
def keep (s : Session) (name : Option String) : Except GateError String → Session
  | .error _  => s
  | .ok token =>
    match name with
    | none      => s
    | some name => { s with tokens := s.tokens.insert name token }

def step (s : Session) : Step → Logged (Session × Answer)
  | .insert identity secret             =>
    pure ({ s with roster := s.roster.insert identity secret },
      .previous <| s.roster.secret? identity)
  | .remove identity                    =>
    pure ({ s with roster := s.roster.erase identity }, .previous <| s.roster.secret? identity)
  | .goOffline                          => pure ({ s with roster := s.roster.goOffline }, .done)
  | .attempt identity secret            => do
    return (s, .attempted <| ← Directory.attempt s.roster s.target identity secret)
  | .signIn identity secret target name => do
    let outcome ← s.gate.signInAt (target.getD s.target) identity secret s.now
    return (s.keep name outcome, .produced outcome)
  | .renew token extension name         => do
    let outcome ← s.gate.renew (s.token token) extension s.now
    return (s.keep name outcome, .produced outcome)
  | .judge token                        => do
    let valid     ← s.gate.isValid (s.token token) s.now
    let available ← s.gate.isAvailable (s.token token) s.now
    return (s, .judged valid available)
  | .configure settings                 => pure ({ s with settings }, .configured settings)
  | .retarget target                    => pure ({ s with target }, .retargeted target)
  | .move m                             => pure ({ s with clock := s.clock.move m }, .done)

-- What each step answers, with the reading of the clock after it.
def run (s : Session) : List Step → List (Logged Answer × Instant)
  | []      => []
  | p :: ps =>
    let next := s.step p
    (⟨next.value.2, next.events⟩, next.value.1.now) :: next.value.1.run ps

end Session
end TokenLifecycle
