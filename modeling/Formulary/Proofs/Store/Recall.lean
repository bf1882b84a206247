import Formulary.Proofs.Entry.Encoding
import Formulary.Proofs.Store.Growing

/-!
# What entries are put for

An entry that is put in a store that does not settle is fetched from it at once, and whatever is put
later, unless two entries have one digest (`fetched_of_put`). But putting asks nothing of an entry,
while to fetch it is to read it, and JSON that nests too deep is not read. The trees of programs are
far from that deep; others can be put and are never fetched (`not_fetched_of_put`).
-/

namespace Formulary.Store

variable {s : Store} {entry : Entry}

/-- The store after some entries have been put in turn. -/
def putAll (s : Store) (entries : List Entry) : Store :=
  entries.foldl (fun s entry => (outcome (put entry) s).2) s

/-- No two of the entries have the same digest and different encodings. -/
def CollisionFree (entries : List Entry) : Prop :=
  ∀ e ∈ entries, ∀ f ∈ entries, e.digest = f.digest → e.encode = f.encode

instance (entries : List Entry) : Decidable (CollisionFree entries) :=
  inferInstanceAs <| Decidable <|
    ∀ e ∈ entries, ∀ f ∈ entries, e.digest = f.digest → e.encode = f.encode

/-! ## Entries that are put in turn -/

theorem Undisturbed.putAll (hs : s.Undisturbed) (entries : List Entry) :
    (s.putAll entries).Undisturbed := by
  induction entries generalizing s with
  | nil => exact hs
  | cons e entries ih => exact ih ((hs.keeps_put e).undisturbed hs)

theorem Undisturbed.settling_putAll (hs : s.Undisturbed) (hsettling : s.settling = none)
    (entries : List Entry) : (s.putAll entries).settling = none := by
  induction entries generalizing s with
  | nil => exact hsettling
  | cons e entries ih =>
    have hkeeps := hs.keeps_put e
    exact ih (hkeeps.undisturbed hs) (hkeeps.settling_eq_none hsettling)

/-- Under each digest there is what was there, or else the first entry of it that was put. -/
theorem Undisturbed.bytes?_putAll (hs : s.Undisturbed) (entries : List Entry) (d : Digest) :
    (s.putAll entries).bytes? d =
      if s.bytes? d = .ok none then .ok ((entries.find? (·.digest = d)).map Entry.encode)
      else s.bytes? d := by
  induction entries generalizing s with
  | nil =>
    split_ifs with hd
    · exact hd
    · rfl
  | cons e entries ih =>
    have hkeeps := hs.keeps_put e
    refine (ih (hkeeps.undisturbed hs)).trans ?_
    by_cases hd : e.digest = d
    · subst hd
      rw [List.find?_cons_of_pos (by simp), hkeeps.receives e.digest]
      by_cases hnone : s.bytes? e.digest = .ok none <;> simp [hnone]
    · have hsame : (outcome (put e) s).2.bytes? d = s.bytes? d := by
        rw [hkeeps.receives d, if_neg fun h => hd h.1.symm]
      rw [List.find?_cons_of_neg (by simpa using hd), hsame]

/-- Unless digests collide what is under the digest of an entry that was put is its encoding. -/
theorem Undisturbed.bytes?_of_mem (hs : s.Undisturbed) (hempty : s.IsEmpty)
    {entries : List Entry} (hfree : CollisionFree entries) (hentry : entry ∈ entries) :
    (s.putAll entries).bytes? entry.digest = .ok (some entry.encode) := by
  obtain ⟨first, hfound⟩ : ∃ first, entries.find? (·.digest = entry.digest) = some first :=
    Option.isSome_iff_exists.1 (List.find?_isSome.2 ⟨entry, hentry, by simp⟩)
  have hdigest : first.digest = entry.digest := by simpa using List.find?_some hfound
  rw [hs.bytes?_putAll, if_pos (hempty _), hfound, Option.map_some,
    hfree first (List.mem_of_find?_eq_some hfound) entry hentry hdigest]

/-- A store that does not settle takes every entry. -/
theorem Undisturbed.outcome_put_putAll (hs : s.Undisturbed) (hsettling : s.settling = none)
    (before : List Entry) (entry : Entry) :
    (outcome (put entry) (s.putAll before)).1 = some (.ok entry.digest) := by
  have hclock := settlesInTime_of_none (hs.settling_putAll hsettling before)
  rcases ((hs.putAll before).keeps_put entry).outcome_fst with ⟨-, h⟩ | ⟨hnot, -⟩
  · exact h
  · exact absurd (.inl hclock) hnot

/-! ## Entries that are fetched -/

/-- What was encoded is taken for the entry unless it nests too deep to be read. -/
theorem lookVerdict_encode (entry : Entry) :
    lookVerdict entry.digest (.ok (some entry.encode)) =
      if entry.toJson.height ≤ Json.greatestHeight then .ok entry
      else .error (.undecodable (.unreadable entry.encode)) := by
  rw [lookVerdict, if_neg fun h => h rfl, Entry.decode_encode]
  split_ifs <;> rfl

theorem Undisturbed.outcome_fetch_putAll (hs : s.Undisturbed) (hsettling : s.settling = none)
    (hempty : s.IsEmpty) {entries : List Entry} (hfree : CollisionFree entries)
    (hentry : entry ∈ entries) :
    (outcome (fetch entry.digest) (s.putAll entries)).1 =
      some (if entry.toJson.height ≤ Json.greatestHeight then .ok entry
        else .error (.undecodable (.unreadable entry.encode))) := by
  obtain ⟨log, hfetch⟩ := outcome_fetch entry.digest (s.putAll entries)
  rw [hfetch, fetch?_of_none (hs.settling_putAll hsettling entries),
    hs.bytes?_of_mem hempty hfree hentry, lookVerdict_encode]

/-- An entry that is put gives its digest, whatever was put before, and whatever is put later it is
    fetched under it from then on, unless it nests deeper than JSON is read, in which case it never
    is. No tree that is as deep as a program may be nests that deep. -/
theorem fetched_of_put (hs : s.Undisturbed) (hsettling : s.settling = none) (hempty : s.IsEmpty)
    {before after : List Entry} (hfree : CollisionFree (before ++ entry :: after)) :
    (outcome (put entry) (s.putAll before)).1 = some (.ok entry.digest) ∧
    (outcome (fetch entry.digest) (s.putAll (before ++ entry :: after))).1 =
      some (if entry.toJson.height ≤ Json.greatestHeight then .ok entry
        else .error (.undecodable (.unreadable entry.encode))) ∧
    (entry.parsed.formDepth ≤ Expr.greatestMaxDepth →
      entry.toJson.height ≤ Json.greatestHeight) :=
  ⟨hs.outcome_put_putAll hsettling before entry,
    hs.outcome_fetch_putAll hsettling hempty hfree (by simp), Entry.height_toJson_le⟩

/-- In memory an entry is fetched after another one was put. -/
theorem fetched_of_put_in_memory :
    let entry : Entry := ⟨"(f x)", .apply (.symbol "f") [.symbol "x"], []⟩
    let s : Store := .inMemory none .empty 0
    (outcome (fetch entry.digest) (s.putAll [entry, ⟨"x", .symbol "x", []⟩])).1 =
      some (.ok entry) := by
  intro entry s
  have hfree : CollisionFree ([] ++ entry :: [⟨"x", .symbol "x", []⟩]) := by decide +kernel
  obtain ⟨-, hfetch, hdepth⟩ := fetched_of_put (s := s) (.memory rfl List.nodup_nil) rfl
    (isEmpty_inMemory _ _ _) hfree
  exact hfetch.trans (by rw [if_pos (hdepth (by decide))])

/-! ## Deep trees -/

/-- The tree as the argument of so many applications, one in the other. -/
def wrapped (tree : Expr) : Nat → Expr
  | 0 => tree
  | n + 1 => .apply (.symbol "f") [wrapped tree n]

/-- A tree of forty-two applications is put and cannot be fetched. -/
theorem not_fetched_of_put :
    let entry : Entry := ⟨"x", wrapped (.symbol "x") 42, []⟩
    let s : Store := .inMemory none .empty 0
    (outcome (put entry) s).1 = some (.ok entry.digest) ∧
      (outcome (fetch entry.digest) (outcome (put entry) s).2).1 =
        some (.error (.undecodable (.unreadable entry.encode))) := by
  intro entry s
  have hs : s.Undisturbed := .memory rfl List.nodup_nil
  have hfree : CollisionFree [entry] := by
    intro e he f hf _
    rw [List.mem_singleton.1 he, List.mem_singleton.1 hf]
  have hdeep : entry.toJson.height = 128 := by decide +kernel
  refine ⟨hs.outcome_put_putAll rfl [] entry,
    (hs.outcome_fetch_putAll rfl (isEmpty_inMemory _ _ _) hfree List.mem_cons_self).trans ?_⟩
  rw [if_neg (by rw [hdeep]; decide)]

end Formulary.Store
