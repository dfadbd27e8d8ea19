import Mathlib.Data.Set.Function

/-! # Keys that expire

A key-value store whose entries may carry the instant they disappear at.  An entry past
its deadline stays in the map but is never read: every operation looks through `find`,
which sees the live entries only.  A write either keeps the deadline of the live entry it
replaces or sets its own.
-/

namespace Expiring

structure Entry (Value : Type*) where
  value : Value
  deadline : Option Nat
  deriving DecidableEq, Repr

abbrev Store (Key Value : Type*) := Key → Option (Entry Value)

variable {Key Value : Type*}

def Entry.live (now : Nat) (entry : Entry Value) : Bool :=
  match entry.deadline with
  | none => true
  | some deadline => now < deadline

def find (store : Store Key Value) (now : Nat) (key : Key) : Option (Entry Value) :=
  (store key).filter (Entry.live now)

def get (store : Store Key Value) (now : Nat) (key : Key) : Option Value :=
  (find store now key).map Entry.value

/-- The instant a present key disappears at; a persistent key has none. -/
def deadline (store : Store Key Value) (now : Nat) (key : Key) : Option Nat :=
  (find store now key).bind Entry.deadline

/-- The milliseconds a present key has left, with `-1` for a persistent key and `-2` for
an absent one. -/
def remaining (store : Store Key Value) (now : Nat) (key : Key) : Int :=
  match find store now key with
  | none => -2
  | some entry =>
    match entry.deadline with
    | none => -1
    | some deadline => deadline - now

section Writes

variable [DecidableEq Key]

def put (store : Store Key Value) (key : Key) (entry : Entry Value) : Store Key Value :=
  Function.update store key (some entry)

def erase (store : Store Key Value) (key : Key) : Store Key Value :=
  Function.update store key none

/-- A write that leaves the deadline of the key as it is. -/
def keepDeadline (store : Store Key Value) (now : Nat) (key : Key) (value : Value) : Store Key Value :=
  put store key ⟨value, deadline store now key⟩

/-- A new deadline for a key that is present. -/
def expireAt (store : Store Key Value) (now : Nat) (key : Key) (instant : Nat) : Store Key Value :=
  match find store now key with
  | none => store
  | some entry => put store key { entry with deadline := some instant }

end Writes

/-- Everything alive at the first instant is alive at the second. -/
def Steady (store : Store Key Value) (now later : Nat) : Prop :=
  ∀ key entry, store key = some entry → entry.live now = true → entry.live later = true

/-! ## Reading -/

section Reading

variable {store : Store Key Value} {now later : Nat} {key : Key} {entry : Entry Value} {value : Value}

theorem find_eq_some : find store now key = some entry ↔ store key = some entry ∧ entry.live now = true := by
  simp [find, Option.filter_eq_some_iff]

theorem Entry.live_of_le (order : now ≤ later) (alive : entry.live later = true) :
    entry.live now = true := by
  unfold Entry.live at *
  split at alive <;> simp_all
  omega

/-- What is alive later was alive before, in a store nothing was written to. -/
theorem find_of_later (order : now ≤ later) (found : find store later key = some entry) :
    find store now key = some entry := by
  rw [find_eq_some] at found ⊢
  exact ⟨found.1, Entry.live_of_le order found.2⟩

theorem get_eq_some : get store now key = some value ↔
    ∃ entry, find store now key = some entry ∧ entry.value = value := by
  simp [get]

theorem get_eq_none : get store now key = none ↔ find store now key = none := by
  simp [get]

theorem get_of_later (order : now ≤ later) (found : get store later key = some value) :
    get store now key = some value := by
  obtain ⟨entry, found, same⟩ := get_eq_some.mp found
  exact get_eq_some.mpr ⟨entry, find_of_later order found, same⟩

theorem deadline_eq_some {instant : Nat} : deadline store now key = some instant ↔
    ∃ entry, find store now key = some entry ∧ entry.deadline = some instant := by
  simp [deadline, Option.bind_eq_some_iff]

/-- A deadline that is read lies ahead. -/
theorem lt_of_deadline {instant : Nat} (read : deadline store now key = some instant) : now < instant := by
  obtain ⟨entry, found, ends⟩ := deadline_eq_some.mp read
  have alive := (find_eq_some.mp found).2
  simpa [Entry.live, ends] using alive

/-- A key whose deadline lies ahead of a later instant is still there then. -/
theorem find_before_deadline {instant : Nat} (found : find store now key = some entry)
    (ends : entry.deadline = some instant) (ahead : later < instant) :
    find store later key = some entry := by
  rw [find_eq_some] at found ⊢
  exact ⟨found.1, by simpa [Entry.live, ends] using ahead⟩

/-- Before its deadline a key is read as it was. -/
theorem find_eq_of_deadline {instant : Nat} (ends : deadline store now key = some instant)
    (ahead : later < instant) : find store later key = find store now key := by
  obtain ⟨entry, found, entryEnds⟩ := deadline_eq_some.mp ends
  rw [found, find_before_deadline found entryEnds ahead]

theorem get_eq_of_deadline {instant : Nat} (ends : deadline store now key = some instant)
    (ahead : later < instant) : get store later key = get store now key := by
  simp only [get, find_eq_of_deadline ends ahead]

theorem deadline_eq_of_deadline {instant : Nat} (ends : deadline store now key = some instant)
    (ahead : later < instant) : deadline store later key = some instant := by
  rw [← ends]
  simp only [deadline, find_eq_of_deadline ends ahead]

/-- A key that can still be read later holds the entry it held before. -/
theorem find_of_get_later (order : now ≤ later) (held : get store later key = some value)
    (found : find store now key = some entry) : find store later key = some entry := by
  obtain ⟨still, foundLater, _⟩ := get_eq_some.mp held
  rw [find_of_later order foundLater, Option.some.injEq] at found
  rwa [found] at foundLater

theorem deadline_of_get_later {instant : Nat} (order : now ≤ later)
    (held : get store later key = some value) (ends : deadline store now key = some instant) :
    deadline store later key = some instant := by
  obtain ⟨entry, found, entryEnds⟩ := deadline_eq_some.mp ends
  exact deadline_eq_some.mpr ⟨entry, find_of_get_later order held found, entryEnds⟩

theorem Steady.find_eq (steady : Steady store now later) (order : now ≤ later) (key : Key) :
    find store later key = find store now key := by
  cases found : find store now key with
  | some entry =>
    obtain ⟨present, alive⟩ := find_eq_some.mp found
    exact find_eq_some.mpr ⟨present, steady key entry present alive⟩
  | none =>
    cases foundLater : find store later key with
    | none => rfl
    | some entry =>
      rw [find_of_later order foundLater] at found
      contradiction

theorem Steady.get_eq (steady : Steady store now later) (order : now ≤ later) (key : Key) :
    get store later key = get store now key := by
  simp only [get, steady.find_eq order]

/-- `remaining` is positive exactly for a present key with a deadline, and measures it. -/
theorem remaining_pos (positive : 0 < remaining store now key) :
    ∃ instant, deadline store now key = some instant ∧
      now + (remaining store now key).toNat = instant := by
  unfold remaining at *
  cases found : find store now key with
  | none => simp [found] at positive
  | some entry =>
    cases ends : entry.deadline with
    | none => simp [found, ends] at positive
    | some instant =>
      simp only [found, ends] at positive ⊢
      exact ⟨instant, deadline_eq_some.mpr ⟨entry, found, ends⟩, by omega⟩

end Reading

/-! ## Reading after a write -/

section ReadingAfter

variable [DecidableEq Key] {store : Store Key Value} {now : Nat} {key other : Key}
  {entry : Entry Value} {value : Value}

theorem find_put_self (alive : entry.live now = true) : find (put store key entry) now key = some entry := by
  simp [find, put, alive]

@[simp] theorem find_put_of_ne (differs : other ≠ key) :
    find (put store key entry) now other = find store now other := by
  simp [find, put, Function.update_of_ne differs]

@[simp] theorem find_erase_self : find (erase store key) now key = none := by
  simp [find, erase]

@[simp] theorem find_erase_of_ne (differs : other ≠ key) :
    find (erase store key) now other = find store now other := by
  simp [find, erase, Function.update_of_ne differs]

@[simp] theorem get_put_of_ne (differs : other ≠ key) :
    get (put store key entry) now other = get store now other := by
  simp [get, differs]

theorem get_put_self (alive : entry.live now = true) :
    get (put store key entry) now key = some entry.value := by
  simp [get, find_put_self alive]

@[simp] theorem get_erase_self : get (erase store key) now key = none := by
  simp [get]

@[simp] theorem get_erase_of_ne (differs : other ≠ key) :
    get (erase store key) now other = get store now other := by
  simp [get, differs]

/-- The deadline a write keeps is one the key still has ahead of it. -/
theorem find_keepDeadline_self :
    find (keepDeadline store now key value) now key = some ⟨value, deadline store now key⟩ := by
  refine find_put_self ?_
  unfold Entry.live
  cases ends : deadline store now key with
  | none => rfl
  | some instant => simpa using lt_of_deadline ends

@[simp] theorem find_keepDeadline_of_ne (differs : other ≠ key) :
    find (keepDeadline store now key value) now other = find store now other :=
  find_put_of_ne differs

@[simp] theorem get_keepDeadline_self : get (keepDeadline store now key value) now key = some value := by
  simp [get, find_keepDeadline_self]

@[simp] theorem get_keepDeadline_of_ne (differs : other ≠ key) :
    get (keepDeadline store now key value) now other = get store now other :=
  get_put_of_ne differs

@[simp] theorem deadline_keepDeadline :
    deadline (keepDeadline store now key value) now other = deadline store now other := by
  by_cases same : other = key
  · simp [deadline, same, find_keepDeadline_self]
  · simp [deadline, same]

/-- A deadline that lies ahead leaves every value readable. -/
theorem get_expireAt {instant : Nat} (ahead : now < instant) :
    get (expireAt store now key instant) now other = get store now other := by
  unfold expireAt
  split
  · rfl
  next entry found =>
    by_cases same : other = key
    · have alive : Entry.live now { entry with deadline := some instant } = true := by
        simpa [Entry.live] using ahead
      rw [same, get_put_self alive, get, found]
      rfl
    · exact get_put_of_ne same

theorem find_expireAt_self {instant : Nat} (ahead : now < instant) :
    find (expireAt store now key instant) now key =
      (find store now key).map fun entry => { entry with deadline := some instant } := by
  unfold expireAt
  split
  next missing => rw [missing]; rfl
  next entry found =>
    rw [found]
    exact find_put_self (by simpa [Entry.live] using ahead)

@[simp] theorem find_expireAt_of_ne {instant : Nat} (differs : other ≠ key) :
    find (expireAt store now key instant) now other = find store now other := by
  unfold expireAt
  split
  · rfl
  · exact find_put_of_ne differs

end ReadingAfter

/-! ## Integers -/

section Numbers

variable [DecidableEq Key]

/-- The value of a counter; one that is absent counts as zero. -/
def number (store : Store Key Int) (now : Nat) (key : Key) : Int :=
  (get store now key).getD 0

/-- Add to a counter, which starts at zero and without a deadline. -/
def incrBy (store : Store Key Int) (now : Nat) (key : Key) (amount : Int) : Store Key Int :=
  keepDeadline store now key (number store now key + amount)

variable {store : Store Key Int} {now : Nat} {key other : Key} {amount : Int}

@[simp] theorem number_keepDeadline_self : number (keepDeadline store now key amount) now key = amount := by
  simp [number]

@[simp] theorem number_keepDeadline_of_ne (differs : other ≠ key) :
    number (keepDeadline store now key amount) now other = number store now other := by
  simp [number, differs]

theorem number_incrBy :
    number (incrBy store now key amount) now other =
      number store now other + if other = key then amount else 0 := by
  by_cases same : other = key
  · simp [incrBy, same]
  · simp [incrBy, same]

theorem find_incrBy_self :
    find (incrBy store now key amount) now key =
      some ⟨number store now key + amount, deadline store now key⟩ :=
  find_keepDeadline_self

@[simp] theorem find_incrBy_of_ne (differs : other ≠ key) :
    find (incrBy store now key amount) now other = find store now other :=
  find_keepDeadline_of_ne differs

@[simp] theorem deadline_incrBy :
    deadline (incrBy store now key amount) now other = deadline store now other :=
  deadline_keepDeadline

theorem number_expireAt {instant : Nat} (ahead : now < instant) :
    number (expireAt store now key instant) now other = number store now other := by
  simp only [number, get_expireAt ahead]

end Numbers

/-! ## Locality

A read of a key depends on that key alone, and a write touches no other. -/

section Locality

variable {first second : Store Key Value} {now : Nat} {key other : Key} {value : Value}
  {entry : Entry Value} {keys : Set Key}

theorem find_congr (same : first key = second key) : find first now key = find second now key := by
  simp only [find, same]

theorem get_congr (same : first key = second key) : get first now key = get second now key := by
  simp only [get, find_congr same]

theorem deadline_congr (same : first key = second key) :
    deadline first now key = deadline second now key := by
  simp only [deadline, find_congr same]

theorem remaining_congr (same : first key = second key) :
    remaining first now key = remaining second now key := by
  simp only [remaining, find_congr same]

theorem number_congr {first second : Store Key Int} (same : first key = second key) :
    number first now key = number second now key := by
  simp only [number, get_congr same]

variable [DecidableEq Key]

theorem put_of_ne (differs : other ≠ key) : put first key entry other = first other :=
  Function.update_of_ne differs _ _

theorem erase_of_ne (differs : other ≠ key) : erase first key other = first other :=
  Function.update_of_ne differs _ _

theorem keepDeadline_of_ne (differs : other ≠ key) :
    keepDeadline first now key value other = first other :=
  put_of_ne differs

theorem incrBy_of_ne {store : Store Key Int} {amount : Int} (differs : other ≠ key) :
    incrBy store now key amount other = store other :=
  keepDeadline_of_ne differs

theorem expireAt_of_ne {instant : Nat} (differs : other ≠ key) :
    expireAt first now key instant other = first other := by
  unfold expireAt
  cases find first now key with
  | none => rfl
  | some => exact put_of_ne differs

theorem eqOn_put (agree : Set.EqOn first second keys) :
    Set.EqOn (put first key entry) (put second key entry) keys := by
  intro other member
  by_cases same : other = key
  · simp [put, same]
  · rw [put_of_ne same, put_of_ne same, agree member]

theorem eqOn_erase (agree : Set.EqOn first second keys) :
    Set.EqOn (erase first key) (erase second key) keys := by
  intro other member
  by_cases same : other = key
  · simp [erase, same]
  · rw [erase_of_ne same, erase_of_ne same, agree member]

theorem eqOn_keepDeadline (agree : Set.EqOn first second keys) (owned : key ∈ keys) :
    Set.EqOn (keepDeadline first now key value) (keepDeadline second now key value) keys := by
  unfold keepDeadline
  rw [deadline_congr (agree owned)]
  exact eqOn_put agree

theorem eqOn_incrBy {first second : Store Key Int} {amount : Int} (agree : Set.EqOn first second keys)
    (owned : key ∈ keys) :
    Set.EqOn (incrBy first now key amount) (incrBy second now key amount) keys := by
  unfold incrBy
  rw [number_congr (agree owned)]
  exact eqOn_keepDeadline agree owned

theorem eqOn_expireAt {instant : Nat} (agree : Set.EqOn first second keys) (owned : key ∈ keys) :
    Set.EqOn (expireAt first now key instant) (expireAt second now key instant) keys := by
  unfold expireAt
  rw [find_congr (agree owned)]
  cases find second now key with
  | none => exact agree
  | some => exact eqOn_put agree

end Locality

end Expiring
