/-! # The hash table of a set

    A set of the dynamic language is an open-addressing hash table, and it is iterated in the
    order of its slots, not in the order its members came. So a set built from `[3, 1]` gives
    `1` before `3`, and which of two members a consumer meets first follows from their hashes,
    the table's size and the history of the table.

    A table has `mask + 1` slots, a power of two and at least eight. A member of hash `h` is
    looked for from slot `h mod (mask + 1)`: that slot and, when they lie inside the table, the
    nine after it; then the probe jumps to `(5 i + 1 + p) mod (mask + 1)`, where the perturbation
    `p` starts as `h` read as an unsigned 64-bit word and loses five bits at each jump. Adding a
    member takes the first free slot on its probe unless a member of the same hash there is
    equal to it; the table grows when three fifths of its mask are used, to the smallest size
    above four times (twice, beyond 50000 members) its members, which are placed again in slot
    order without comparisons.

    Removing a member leaves its slot a dummy: a probe passes over it, and adding a member
    takes the first dummy on its probe when no equal member lies further on. The table grows
    when its members and dummies together fill three fifths of its mask, and growing drops the
    dummies. The probe needs fuel: once the perturbation is zero (after at most thirteen jumps
    of a 64-bit word) the jumps visit every slot, and a table always has a free one, so
    `mask + 16` jumps always suffice. -/

namespace ItemRecommender.Object

/-- The shape of a set's table: its mask, for each member in slot order its slot and its hash,
and the slots of removed members. A set keeps its members, in the same order, beside it. -/
structure Layout where
  mask : Nat
  slots : List (Nat × Int)
  dummies : List Nat
  deriving DecidableEq, Repr, Inhabited

/-- The layout of an empty set. -/
def Layout.empty : Layout := ⟨7, [], []⟩

/-- A set's table: its mask, its members in slot order with their slots and hashes, and the
slots its removed members left. -/
structure Table (α : Type) where
  mask : Nat
  entries : List (Nat × Int × α)
  dummies : List Nat
  deriving Inhabited

namespace Table

variable {α ε : Type}

/-- The number of slots a probe looks at after the one it starts a run at, when they fit. -/
def linearProbes : Nat := 9

/-- The empty table of eight slots. -/
def empty : Table α := ⟨7, [], []⟩

/-- The table of members laid out as a layout says. -/
def ofLayout (members : List α) (l : Layout) : Table α :=
  ⟨l.mask, (l.slots.zip members).map (fun ((i, h), x) => (i, h, x)), l.dummies⟩

/-- The layout of a table. -/
def layout (t : Table α) : Layout := ⟨t.mask, t.entries.map (fun (i, h, _) => (i, h)), t.dummies⟩

/-- The members of a table in slot order. -/
def members (t : Table α) : List α := t.entries.map fun (_, _, x) => x

/-- The number of members. -/
def size (t : Table α) : Nat := t.entries.length

/-- The hash and member in a slot, if it is used. -/
def occupant? (t : Table α) (i : Nat) : Option (Int × α) :=
  (t.entries.find? (·.1 = i)).map (·.2)

/-- The number of used and dummy slots. -/
def fill (t : Table α) : Nat := t.size + t.dummies.length

/-- Whether a slot holds neither a member nor a dummy. -/
def isFree (t : Table α) (i : Nat) : Bool := (t.occupant? i).isNone && !t.dummies.contains i

/-- The table with a member placed in a free or dummy slot. -/
def place (t : Table α) (i : Nat) (hash : Int) (x : α) : Table α :=
  ⟨t.mask, t.entries.filter (·.1 < i) ++ [(i, hash, x)] ++ t.entries.filter (·.1 > i),
    t.dummies.filter (· ≠ i)⟩

/-- A hash as an unsigned 64-bit word: the first perturbation of its probe. -/
def word (hash : Int) : Nat := (hash % Int.ofNat (Nat.pow 2 64)).toNat

/-- The slots of one run of a probe from slot `i`. -/
def run (mask i : Nat) : List Nat :=
  if i + linearProbes ≤ mask then List.range' i (linearProbes + 1) else [i]

/-- The slot a probe jumps to from slot `i`, and its next perturbation. -/
def jump (mask i perturb : Nat) : Nat × Nat :=
  let p := perturb / 32
  ((i * 5 + 1 + p) % (mask + 1), p)

/-- The jumps a probe of a table may need. -/
def fuel (t : Table α) : Nat := t.mask + 16

/-- The first free slot of a probe from slot `i`, with at most `fuel` jumps. -/
def freeSlot (t : Table α) : Nat → Nat → Nat → Option Nat
  | 0, _, _ => none
  | fuel + 1, i, perturb =>
    match (run t.mask i).find? fun j => t.isFree j with
    | some j => some j
    | none =>
      let (i, perturb) := jump t.mask i perturb
      freeSlot t fuel i perturb

/-- A member placed without comparisons, at the first free slot of its probe. -/
def insertClean (t : Table α) (hash : Int) (x : α) : Table α :=
  let w := word hash
  match freeSlot t t.fuel (w % (t.mask + 1)) w with
  | some i => t.place i hash x
  | none => t

/-- The smallest table size that is at least `size` and above `minUsed`, doubling `size` at
most `fuel` times. -/
def sizeAbove (minUsed : Nat) : Nat → Nat → Nat
  | 0, size => size
  | fuel + 1, size => if minUsed < size then size else sizeAbove minUsed fuel (2 * size)

/-- The table grown to the smallest size above `minUsed`, its members placed again in slot
order. -/
def resize (t : Table α) (minUsed : Nat) : Table α :=
  let fresh : Table α := ⟨sizeAbove minUsed minUsed 8 - 1, [], []⟩
  t.entries.foldl (fun acc (_, h, x) => acc.insertClean h x) fresh

/-- What a probe finds: the slot of a member equal to the one looked for, the slot a new
member would take (the first dummy met, else the free slot that ends the probe), or neither yet,
with the first dummy met so far. -/
inductive Probe where
  | equal (slot : Nat)
  | free (slot : Nat)
  | onward (dummy : Option Nat)

/-- Looks along the slots of a run for a free slot or a member of hash `hash` equal to `x`,
passing over dummies and keeping the first. -/
def scan (eq : α → α → Except ε Bool) (t : Table α) (hash : Int) (x : α) (dummy : Option Nat) :
    List Nat → Except ε Probe
  | [] => pure (.onward dummy)
  | j :: js =>
    match t.occupant? j with
    | none =>
      if t.dummies.contains j then scan eq t hash x (dummy.orElse fun _ => some j) js
      else pure (.free (dummy.getD j))
    | some (h, y) => do
      if h == hash then
        if ← eq y x then return .equal j
      scan eq t hash x dummy js

/-- Probes for a member of hash `hash` equal to `x`, with at most `fuel` jumps. -/
def search (eq : α → α → Except ε Bool) (t : Table α) (hash : Int) (x : α) :
    Nat → Nat → Nat → Option Nat → Except ε Probe
  | 0, _, _, dummy => pure (.onward dummy)
  | fuel + 1, i, perturb, dummy => do
    match ← scan eq t hash x dummy (run t.mask i) with
    | .onward dummy =>
      let (i, perturb) := jump t.mask i perturb
      search eq t hash x fuel i perturb dummy
    | found => pure found

/-- The probe of a member from the start of its hash. -/
def probe (eq : α → α → Except ε Bool) (t : Table α) (hash : Int) (x : α) : Except ε Probe :=
  let w := word hash
  search eq t hash x t.fuel (w % (t.mask + 1)) w none

/-- A member added unless an equal member is there. A member that takes a dummy's slot fills
no new slot; one that takes a free slot may make the table grow, when members and dummies
fill three fifths of its mask. -/
def add (eq : α → α → Except ε Bool) (t : Table α) (hash : Int) (x : α) : Except ε (Table α) := do
  match ← t.probe eq hash x with
  | .free i =>
    let reused := t.dummies.contains i
    let t := t.place i hash x
    if reused || t.fill * 5 < t.mask * 3 then pure t
    else pure (t.resize (if t.size > 50000 then t.size * 2 else t.size * 4))
  | _ => pure t

/-- A member equal to `x` removed, its slot left a dummy, and whether there was one. -/
def discard (eq : α → α → Except ε Bool) (t : Table α) (hash : Int) (x : α) :
    Except ε (Table α × Bool) := do
  match ← t.probe eq hash x with
  | .equal i => pure (⟨t.mask, t.entries.filter (·.1 ≠ i), t.dummies ++ [i]⟩, true)
  | _ => pure (t, false)

/-- The table grown ahead of `more` new members, when they could fill three fifths of it with
its members and dummies. -/
def reserve (t : Table α) (more : Nat) : Table α :=
  if (t.fill + more) * 5 ≥ t.mask * 3 then t.resize ((t.size + more) * 2) else t

/-- An empty table with the members of another: the other's layout when the two have one size
and the other no dummies, else its members placed in its slot order without comparisons. -/
def takeAll (t other : Table α) : Table α :=
  if t.mask = other.mask ∧ other.dummies = [] then ⟨t.mask, other.entries, []⟩
  else other.entries.foldl (fun acc (_, h, x) => acc.insertClean h x) t

/-- The members of another set added: an empty table of the same size takes the other's
layout, another empty table places them without comparisons, and any other adds them one by
one, all in the other's slot order. -/
def merge (eq : α → α → Except ε Bool) (t other : Table α) : Except ε (Table α) :=
  if other.size = 0 then pure t
  else
    let t := t.reserve other.size
    if t.fill = 0 then pure (t.takeAll other)
    else other.entries.foldlM (fun acc (_, h, x) => acc.add eq h x) t

/-- A new table with the members of another, as a set made from a set holds them. -/
def copy (other : Table α) : Table α :=
  if other.size = 0 then empty else (empty.reserve other.size).takeAll other

/-- The keys of a map, with their hashes, added one by one after growing the table for all
of them. -/
def addKeys (eq : α → α → Except ε Bool) (t : Table α) (keys : List (Int × α)) :
    Except ε (Table α) :=
  (keys.foldlM fun acc (h, x) => acc.add eq h x) (t.reserve keys.length)

end Table

end ItemRecommender.Object
