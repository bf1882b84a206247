import Formulary.Expr.Render
import Formulary.Store.Await

/-!
# Registries

A registry is a store with rules: how deep the forms of a program may nest, and how long to wait for
an entry. Its operations are what a client can ask for. A program passes the stages of
`Formulary.Stage` on its way into the store, and the log shows each of them.

What is stored is trusted no further than its text: whoever fetches an entry gets it only if its
text still reads as its tree.
-/

namespace Formulary

/-- The rules of a registry. -/
structure Registry where
  /-- The greatest number of nested forms of a program. -/
  maxDepth : Nat
  patience : Patience
  deriving DecidableEq

namespace Registry

/-- A request that is being served by a registry over a store. -/
abbrev Request (α : Type) := ExceptT Rejection Store.Run α

/-- Something done to the store, as a part of a request. -/
def onStore {α : Type} (action : Store.Action α) : Request α :=
  ExceptT.adapt Rejection.store action

/-- Ends a request, which the log shows. -/
def reject {α : Type} (rejection : Rejection) : Request α := do
  Store.emit (.rejected rejection.reached rejection)
  throw rejection

/-- A part of a request whose failure the log shows. -/
def orReject {α : Type} (part : Except Rejection α) : Request α :=
  match part with
  | .ok a => return a
  | .error rejection => reject rejection

/-- The limit on nested forms: no more than can be stored. -/
def depthLimit (registry : Registry) : Nat :=
  min registry.maxDepth Expr.greatestMaxDepth

/-- The tree of a source, if it is a valid program. -/
def check (registry : Registry) (source : String) : Request Expr := do
  Store.emit (.received source.utf8ByteSize)
  let tokens := Token.tokenize source
  Store.emit (.lexed tokens.length)
  let tree ← orReject ((Expr.Parse.tokens registry.depthLimit tokens).mapError .unparsable)
  Store.emit (.parsed tree.nodeCount)
  orReject (tree.validate.mapError .invalid)
  Store.emit .validated
  return tree

/-- Whether a source is a valid program. -/
def accepts (registry : Registry) (source : String) : Store.Run Bool := do
  return (← (registry.check source).run).isOk

/-- Every operand must be visible in the store. -/
def checkOperands : List Digest → Request Unit
  | [] => return ()
  | d :: ds => do
    if ← onStore (Store.holds d) then checkOperands ds else reject (.missingOperand d)

/-- Stores an entry whose operands are all there. -/
def storeEntry (entry : Entry) : Request Digest := do
  checkOperands entry.operands
  let outcome ← liftM (Store.put entry).run
  let d ← orReject (outcome.mapError .store)
  Store.emit (.stored d)
  Store.emit (.done d entry.operands.length)
  return d

/-- Stores a program and gives the digest of its entry. -/
def create (registry : Registry) (source : String) (operands : List Digest) : Request Digest := do
  let tree ← registry.check source
  storeEntry ⟨source, tree, operands⟩

/-- Stores a program given as a tree, under its canonical text. -/
def createTree (registry : Registry) (tree : Expr) (operands : List Digest) : Request Digest := do
  if tree.exceedsDepth registry.depthLimit then reject (.invalid (.tooDeep registry.depthLimit))
  orReject (tree.validate.mapError .invalid)
  -- the text of a valid tree reads as the tree
  let operator := tree.render
  let parsed ← registry.check operator
  storeEntry ⟨operator, parsed, operands⟩

/-- An entry that was fetched, if its text still reads as its tree. Entries of deeper programs than
    are accepted now count. -/
def verified (d : Digest) (entry : Entry) : Request Entry :=
  match entry.verify Expr.greatestMaxDepth with
  | .ok () => return entry
  | .error mismatch => do
    let error : Store.Error := .doubtful d (.mismatch mismatch)
    Store.emit (.mistrusted d error)
    throw (.store error)

/-- The entry under a digest. -/
def fetch (d : Digest) : Request Entry := do
  verified d (← onStore (Store.fetch d))

/-- The entry under a digest, as soon as it is visible. -/
def await (registry : Registry) (d : Digest) : Request Entry := do
  verified d (← onStore (Store.await d registry.patience))

/-- All digests of entries that are visible, in order. -/
def digests : Request (List Digest) :=
  onStore Store.digests

/-! ## Opening -/

/-- Why a registry could not be opened. -/
inductive OpeningError
  | settings (fault : Settings.Fault)
  | store (error : Store.Error)

/-- What is said when a registry could not be opened. -/
def OpeningError.message [Wording] : OpeningError → String
  | settings fault => fault.message
  | store error => error.message

/-- Whether a program that comes to such an error breaks off without a word. -/
def OpeningError.breaksOff : OpeningError → Bool
  | settings fault => fault.breaksOff
  | store _ => false

/-- The registry of the rules that are set. -/
def ofSettings (settings : Settings) : Registry :=
  ⟨settings.maxDepth, settings.patience⟩

/-- The registry that the settings ask for, and its store, on a disk that stays changed also if they
    cannot be opened. -/
def opened (settings : Settings) (now : Instant) :
    ExceptT OpeningError (StateM Disk) (Registry × Store) := do
  ExceptT.mk (pure (settings.validate.mapError .settings))
  let store ← ExceptT.adapt .store (Store.ofSettings settings now)
  return (ofSettings settings, store)

end Registry

end Formulary
