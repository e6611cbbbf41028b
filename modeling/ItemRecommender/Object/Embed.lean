import ItemRecommender.Join
import ItemRecommender.Object.Stage
/-! # Typed datasets as objects

    A phase that reads a dataset of objects reads its other inputs as objects too: the records
    a run wrote become the objects the pipeline holds for them. Each dataset is a list of
    `(key, value)` tuples whose keys and ids are integers and whose values are doubles (records
    of another number type give their values as doubles by `num`):

    * a preference is a `Preference` record of its user, item and value;
    * an item table row is the tuple `(index, item id)`;
    * a user vector is a `UserVector` record of its user and a map from index to slot, an
      excluded slot being the marker member;
    * a column is a map from index to weight;
    * a joined record is a `VectorAndPrefs` record of its column and the lists of its raters
      and their slots.

    A phase writes its records as a list of `(key, value)` tuples; a dataset that holds a module
    cannot be written (`checkWritable`). -/

namespace ItemRecommender.Object

/-- A record of a class of the pipeline's records. -/
def newRecord (name : String) (fields : List (String × Value)) : Act Value :=
  allocate (.object ⟨recordModule, name⟩ [] fields)

/-- A slot as an object. -/
def slotObject {α : Type} (num : α → Float) : Slot α → Value
  | .value v => .float (num v)
  | .excluded => excludedMember

/-- A map of integer keys. -/
def intMap {α : Type} (f : α → Value) (entries : List (Int × α)) : Act Value :=
  newDict (entries.map fun (k, v) => (.int k, f v))

/-- The keyed records of a dataset as a list of tuples. -/
def recordList {α : Type} (f : α → Act Value) (records : List (Int × α)) : Act Value := do
  newList (← records.mapM fun (k, v) => do pure (.tuple [.int k, ← f v]))

/-- The preferences of a run, numbered from zero, as records. -/
def preferenceObjects {α : Type} (num : α → Float) (prefs : List (Preference α)) : Act Value :=
  recordList (fun p => newRecord "Preference"
      [("user_id", .int p.user), ("item_id", .int p.item), ("value", .float (num p.value))])
    (prefs.zipIdx.map fun (p, i) => ((i : Int), p))

/-- An item table as objects. -/
def tableObjects (t : ItemTable) : Act Value :=
  newList (t.rows.map fun (i, id) => .tuple [.int i, .int id])

/-- User vectors as objects. -/
def vectorObjects {α : Type} (num : α → Float) (vs : List (Int × UserVector α)) : Act Value :=
  recordList (fun (user, v) => do
      newRecord "UserVector" [("user_id", .int user), ("entries", ← intMap (slotObject num) v.entries)])
    (vs.map fun (u, v) => (u, (u, v)))

/-- Co-occurrence columns as objects. -/
def columnObjects {α : Type} (num : α → Float) (cs : List (Int × Column α)) : Act Value :=
  recordList (fun c => intMap (fun v => .float (num v)) c.entries) cs

/-- Joined records as objects. -/
def joinedObjects {α : Type} (num : α → Float) (rs : List (Int × RatedColumn α)) : Act Value :=
  recordList (fun r => do
      newRecord "VectorAndPrefs" [("vector", ← intMap (fun v => .float (num v)) r.column.entries),
        ("user_ids", ← newList (r.raters.map Value.int)),
        ("values", ← newList (r.slots.map (slotObject num)))]) rs

/-- Keyed records as the list of tuples a phase writes. -/
def recordsValue (records : List (Value × Value)) : Act Value :=
  newList (records.map fun (k, v) => .tuple [k, v])

/-- Walks the objects a value reaches, at most `fuel` levels deep, and fails at the first that
cannot be written; `seen` holds the cells walked so far, each walked once. -/
def writableIn (h : Heap) : Nat → List Nat → Value → Except Raised (List Nat)
  | 0, _, _ => throw (nestingFault " while pickling an object")
  | fuel + 1, seen, v =>
    match v with
    | .module _ => throw ⟨"TypeError", "cannot pickle 'module' object"⟩
    | .tuple xs | .named _ _ xs | .frozenset xs _ => xs.foldlM (writableIn h fuel) seen
    | .ref a =>
      if seen.contains a then pure seen
      else
        let seen := a :: seen
        match h.get a with
        | .list xs | .set xs _ => xs.foldlM (writableIn h fuel) seen
        | .dict _ es factory => do
          let seen ← es.foldlM (fun s (k, x) => do
            writableIn h fuel (← writableIn h fuel s k) x) seen
          writableIn h fuel seen factory
        | .object _ args attrs => do
          let seen ← args.foldlM (writableIn h fuel) seen
          attrs.foldlM (fun s (_, x) => writableIn h fuel s x) seen
        | .iterator _ pending _ => pending.foldlM (writableIn h fuel) seen
        | .bytearray _ => pure seen
    | _ => pure seen

/-- Fails if a value reaches an object that cannot be written. -/
def checkWritable (v : Value) : Act Unit := do
  let _ ← reading fun h => writableIn h nestingLimit [] v

end ItemRecommender.Object
