import HandleChallenge.Text.Ascii

/-!
# Header parameters

The parameters of an authorization header: a finite map from names to values. Names are compared
without regard to ASCII case, so they are held in small letters; the entries are held in the
order of their names, each name once, so that two maps with the same entries are equal.
`get?_insert` says what insertion does.
-/

namespace HandleChallenge.Header

/-- A parameter that the protocol knows. -/
inductive Known where
  | version
  | sessionId
  | id
  | cnonce
  | type
  | alg
  | signature
  | salt
  | iterations
  | length
  | clientCert
  | renegotiate
  deriving DecidableEq

namespace Known

/-- Every known parameter. -/
def all : List Known :=
  [version, sessionId, id, cnonce, type, alg, signature, salt, iterations, length, clientCert,
    renegotiate]

/-- The name as it is written. -/
def spelling : Known → String
  | version => "version"
  | sessionId => "sessionId"
  | id => "id"
  | cnonce => "cnonce"
  | type => "type"
  | alg => "alg"
  | signature => "signature"
  | salt => "salt"
  | iterations => "iterations"
  | length => "length"
  | clientCert => "clientCert"
  | renegotiate => "renegotiate"

/-- The name as it is held. -/
def key (known : Known) : String := Text.lowercase known.spelling

/-- The known parameter that a name spells, in any case. -/
def ofName? (name : String) : Option Known := all.find? (·.key == Text.lowercase name)

end Known

/-- Entries with the value of one name set. -/
def insertEntry (name value : String) : List (String × String) → List (String × String)
  | [] => [(name, value)]
  | (other, old) :: rest =>
    if name < other then (name, value) :: (other, old) :: rest
    else if name = other then (name, value) :: rest
    else (other, old) :: insertEntry name value rest

theorem mem_insertEntry {name value : String} {entries : List (String × String)}
    {e : String × String} (h : e ∈ insertEntry name value entries) :
    e = (name, value) ∨ e ∈ entries := by
  induction entries with
  | nil => simpa [insertEntry] using h
  | cons first rest ih =>
    obtain ⟨other, old⟩ := first
    simp only [insertEntry] at h
    split at h
    · simpa using h
    · split at h
      · rcases List.mem_cons.1 h with h | h
        · exact .inl h
        · exact .inr (List.mem_cons_of_mem _ h)
      · rcases List.mem_cons.1 h with h | h
        · exact .inr (h ▸ List.mem_cons_self)
        · exact (ih h).imp id (List.mem_cons_of_mem _)

theorem pairwise_insertEntry (name value : String) {entries : List (String × String)}
    (sorted : entries.Pairwise (·.1 < ·.1)) :
    (insertEntry name value entries).Pairwise (·.1 < ·.1) := by
  induction entries with
  | nil => simp [insertEntry]
  | cons first rest ih =>
    obtain ⟨other, old⟩ := first
    obtain ⟨hfirst, hrest⟩ := List.pairwise_cons.1 sorted
    simp only [insertEntry]
    split
    · rename_i hlt
      refine List.pairwise_cons.2 ⟨fun e he => ?_, sorted⟩
      rcases List.mem_cons.1 he with rfl | he
      · exact hlt
      · exact String.lt_trans hlt (hfirst e he)
    · split
      · rename_i heq
        subst heq
        exact List.pairwise_cons.2 ⟨hfirst, hrest⟩
      · rename_i hlt hne
        refine List.pairwise_cons.2 ⟨fun e he => ?_, ih hrest⟩
        rcases mem_insertEntry he with rfl | he
        · exact Std.lt_of_le_of_ne (String.not_lt.1 hlt) (Ne.symm hne)
        · exact hfirst e he

/-- The parameters of a header. -/
structure Params where
  /-- Names and values in the order of the names. -/
  entries : List (String × String)
  /-- Each name comes once. -/
  sorted : entries.Pairwise (·.1 < ·.1)
  /-- Names are in small letters. -/
  lowered : ∀ e ∈ entries, Text.lowercase e.1 = e.1
  deriving DecidableEq

namespace Params

/-- No parameters. -/
def empty : Params := ⟨[], .nil, by simp⟩

/-- The parameters with the value of a name set. -/
def insert (params : Params) (name value : String) : Params where
  entries := insertEntry (Text.lowercase name) value params.entries
  sorted := pairwise_insertEntry _ _ params.sorted
  lowered e he := by
    rcases mem_insertEntry he with rfl | he
    · simp
    · exact params.lowered e he

/-- The parameters with every entry of a list set, one after the other. -/
def insertAll (params : Params) (entries : List (String × String)) : Params :=
  entries.foldl (fun params (name, value) => params.insert name value) params

/-- The parameters of a list of entries; of two with one name the later counts. -/
def ofList (entries : List (String × String)) : Params := empty.insertAll entries

/-- The value of a name. -/
def get? (params : Params) (name : String) : Option String :=
  params.entries.lookup (Text.lowercase name)

/-- Whether a name has a value. -/
def contains (params : Params) (name : String) : Bool := (params.get? name).isSome

def size (params : Params) : Nat := params.entries.length

def isEmpty (params : Params) : Bool := params.entries.isEmpty

/-- The value of a known parameter. -/
def known? (params : Params) (known : Known) : Option String := params.get? known.key

/-- Whether a known parameter is present. -/
def has (params : Params) (known : Known) : Bool := (params.known? known).isSome

/-- The parameters with another value for each. -/
def mapValues (params : Params) (f : String → String) : Params where
  entries := params.entries.map fun e => (e.1, f e.2)
  sorted := by
    rw [List.pairwise_map]
    exact params.sorted
  lowered e he := by
    obtain ⟨old, hold, rfl⟩ := List.mem_map.1 he
    exact params.lowered old hold

/-- An identity is claimed: `id`, `type`, `alg` or `signature` is present. -/
def claimsIdentity (params : Params) : Bool :=
  [Known.id, .type, .alg, .signature].any params.has

/-- The server is asked to sign: there is a client nonce and no `id`. -/
def asksServerSignature (params : Params) : Bool := params.has .cnonce && !params.has .id

/-- State of a session is needed for an answer. -/
def needsSession (params : Params) : Bool :=
  params.has .sessionId || params.claimsIdentity || params.asksServerSignature

/-- The first part of a claim that is absent. -/
def missing? (params : Params) : Option Known :=
  [Known.id, .cnonce, .type, .alg, .signature].find? (!params.has ·)

/-- An identity is claimed and part of the claim is absent. -/
def isIncomplete (params : Params) : Bool := params.claimsIdentity && params.missing?.isSome

end Params

theorem lookup_insertEntry (name value other : String) (entries : List (String × String)) :
    (insertEntry name value entries).lookup other =
      if other = name then some value else entries.lookup other := by
  induction entries with
  | nil =>
    by_cases h : other = name
    · simp [insertEntry, h]
    · simp [insertEntry, List.lookup_cons, beq_eq_false_iff_ne.2 h, h]
  | cons first rest ih =>
    obtain ⟨first, old⟩ := first
    simp only [insertEntry]
    by_cases h : other = name
    · subst h
      split
      · simp
      · split
        · simp
        · rename_i hne
          simp [List.lookup_cons, beq_eq_false_iff_ne.2 hne, ih]
    · split
      · simp [List.lookup_cons, beq_eq_false_iff_ne.2 h]
      · split
        · rename_i heq
          subst heq
          simp [List.lookup_cons, beq_eq_false_iff_ne.2 h]
        · simp [List.lookup_cons, ih, h]

/-- Insertion sets one name, in any case, and no other. -/
theorem Params.get?_insert (params : Params) (name value other : String) :
    (params.insert name value).get? other =
      if Text.lowercase other = Text.lowercase name then some value else params.get? other := by
  simp [Params.get?, Params.insert, lookup_insertEntry]

end HandleChallenge.Header
