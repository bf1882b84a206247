import Formulary.Proofs.Registry.Atomicity
import Formulary.Proofs.Registry.Identity
import Formulary.Proofs.Registry.Retrieval
import Formulary.Proofs.Store.Recall

/-!
# Programs in any order

What is in a store that was empty is told by the programs that have been stored in it: neither their
order matters, nor how often each of them was submitted, nor what else was asked for in between. A
program must be submitted after its operands, which is why an order may fail; but orders that do not
fail all come to the same (`same_in_any_order`), be it in memory or in a folder.

* `Holds.bytes?_eq`: two stores hold the same bytes if they hold the same entries.
-/

namespace Formulary.Registry

open Store (outcome)

variable {s s' t t' : Store} {past past' : List (Store × Call)}

/-! ## The same entries -/

theorem holds_of_history (hempty : s.IsEmpty) (h : History s past t) : Holds t (Stored past) := by
  induction h with
  | start => exact holds_of_empty hempty
  | age h hu ih => exact ih.of_bytes?_eq hu.bytes?_eq
  | call h call ih => exact holds_after_call ih call

/-- Stores hold the same bytes if they hold the same entries and no two of these have one digest. -/
theorem Holds.bytes?_eq {entries : Entry → Prop} (h : Holds t entries) (h' : Holds t' entries)
    (hfree : ∀ e f, entries e → entries f → e.digest = f.digest → e.encode = f.encode) :
    t.bytes? = t'.bytes? := by
  funext d
  rcases h.sound d with hnone | ⟨e, he, rfl, hbytes⟩
  · rcases h'.sound d with hnone' | ⟨e, he, rfl, -⟩
    · rw [hnone, hnone']
    · exact absurd hnone (h.complete e he)
  · rcases h'.sound e.digest with hnone | ⟨f, hf, hdigest, hbytes'⟩
    · exact absurd hnone (h'.complete e he)
    · rw [hbytes, hbytes', hfree e f he hf hdigest.symm]

/-- A store that does not settle when a run starts does not at its end. -/
theorem History.settling_eq_none (hs : s.Undisturbed) (hsettling : s.settling = none)
    (h : History s past t) : t.settling = none := by
  induction h with
  | start => exact hsettling
  | @age past t u h hu ih => simpa [Store.delay?, ih] using hu.delay?_eq
  | @call past t h call ih =>
    rcases hx : call.storing? with _ | x
    · exact (Call.passes_after hx t).settling_eq_none ih
    · rw [Call.after_eq hx]
      rcases Call.storing_cases (h.undisturbed hs) hx with ⟨rejection, u, hu, hreject⟩ |
        ⟨entry, -, hkeeps⟩
      · rw [hreject]
        exact hu.settling_eq_none ih
      · exact hkeeps.settling_eq_none ih

theorem Call.settling_after_eq_none (hs : s.Undisturbed) (hsettling : s.settling = none)
    (call : Call) : (call.after s).settling = none :=
  (History.start.call call).settling_eq_none hs hsettling

/-- In a store that does not settle all that is there may be seen. -/
theorem visible_iff_of_none (hs : s.Undisturbed) (hsettling : s.settling = none) {d : Digest} :
    Visible s d ↔ s.bytes? d ≠ .ok none := by
  obtain ⟨found, hfound⟩ := hs.exists_bytes?_eq d
  rw [Visible, Store.fetch?_of_none hsettling, hfound]
  cases found <;> simp

/-- In a store that does not settle a program is stored if it is accepted and its operands are
    there. -/
theorem outcome_create_of_none {registry : Registry} {source : String} {operands : List Digest}
    {tree : Expr} (hs : s.Undisturbed) (hsettling : s.settling = none)
    (hverdict : registry.verdict source = .ok tree) (hvisible : ∀ o ∈ operands, Visible s o) :
    (outcome (registry.create source operands) s).1 =
      some (.ok (Entry.digest ⟨source, tree, operands⟩)) := by
  rcases (keeps_create hs hverdict hvisible).outcome_fst with ⟨-, h⟩ | ⟨hnot, -⟩
  · exact h
  · exact absurd (.inl (Store.settlesInTime_of_none hsettling)) hnot

/-- In a store that does not settle what has been stored may be seen. -/
theorem visible_after_create {registry : Registry} {source : String} {operands : List Digest}
    {d : Digest} (hs : s.Undisturbed) (hsettling : s.settling = none)
    (hd : (outcome (registry.create source operands) s).1 = some (.ok d)) :
    Visible (Call.after s ⟨registry, .create source operands⟩) d := by
  obtain ⟨entry, -, rfl, hreceives, -⟩ :=
    (atomic hs ⟨registry, .create source operands⟩).stores _ _ rfl hd
  refine (visible_iff_of_none (Call.undisturbed_after hs _)
    (Call.settling_after_eq_none hs hsettling _)).2 ?_
  rw [hreceives]
  split_ifs with hmissing
  · simp
  · exact fun h => hmissing ⟨rfl, h⟩

/-- What a store that does not settle lists. -/
theorem exists_outcome_digests_of_none (ht : t.Undisturbed) (hsettling : t.settling = none) :
    ∃ ds, (outcome digests t).1 = some (.ok ds) ∧ Digest.Increasing ds ∧
      ∀ d, d ∈ ds ↔ t.bytes? d ≠ .ok none := by
  obtain ⟨ds, log, hlisted, hincreasing, hmem⟩ := ht.outcome_shelfDigests
  refine ⟨ds, ?_, hincreasing, hmem⟩
  have hdigests := Store.outcome_digests_of_none hlisted hsettling
  rw [digests, onStore, Store.outcome_adapt, hdigests]
  rfl

/-! ## The same programs -/

/-- The program was submitted against the operands. -/
def Submitted (past : List (Store × Call)) (source : String) (operands : List Digest) : Prop :=
  ∃ p ∈ past, p.2.operation = .create source operands

/-- The program was submitted against the operands, and the digest was given for it. -/
def Named (past : List (Store × Call)) (source : String) (operands : List Digest) (d : Digest) :
    Prop :=
  ∃ p ∈ past, p.2.operation = .create source operands ∧
    (outcome (p.2.registry.create source operands) p.1).1 = some (.ok d)

/-- Each call that was to store something submitted a program, and succeeded. -/
def AllServed (past : List (Store × Call)) : Prop :=
  ∀ p ∈ past, p.2.storing? = none ∨ ∃ source operands d, p.2.operation = .create source operands ∧
    (outcome (p.2.registry.create source operands) p.1).1 = some (.ok d)

/-- What was submitted hangs on the calls alone. -/
theorem submitted_iff_mem {source : String} {operands : List Digest} :
    Submitted past source operands ↔
      ∃ call ∈ past.map Prod.snd, call.operation = .create source operands := by
  simp only [Submitted, List.mem_map, exists_exists_and_eq_and]

theorem allServed_nil : AllServed [] :=
  List.forall_mem_nil _

theorem AllServed.create {registry : Registry} {source : String} {operands : List Digest}
    {d : Digest} (h : AllServed past)
    (hd : (outcome (registry.create source operands) s).1 = some (.ok d)) :
    AllServed ((s, ⟨registry, .create source operands⟩) :: past) :=
  List.forall_mem_cons.2 ⟨.inr ⟨source, operands, d, rfl, hd⟩, h⟩

/-- The entry that a submission stores. -/
theorem Call.Stores.eq_of_create {registry : Registry} {source : String} {operands : List Digest}
    {tree : Expr} {entry : Entry} (h : Call.Stores s ⟨registry, .create source operands⟩ entry)
    (hverdict : registry.verdict source = .ok tree) : entry = ⟨source, tree, operands⟩ := by
  cases h with
  | create hother _ =>
    obtain rfl := Except.ok.inj (hverdict.symm.trans hother)
    rfl

/-- Nothing is stored but the entries of what was submitted. -/
theorem mem_of_stored {entries : List Entry} {entry : Entry} (h : Stored past entry)
    (hcalls : ∀ call ∈ past.map Prod.snd, ∃ e ∈ entries, ∃ registry : Registry,
      call = ⟨registry, .create e.operator e.operands⟩ ∧
        registry.verdict e.operator = .ok e.parsed) : entry ∈ entries := by
  obtain ⟨⟨u, call⟩, hp, hstores⟩ := h
  obtain ⟨e, he, registry, rfl, hverdict⟩ := hcalls call (List.mem_map_of_mem hp)
  exact hstores.eq_of_create hverdict ▸ he

/-- The entries that were stored are those of the programs that were submitted. -/
theorem stored_iff (hserved : AllServed past) {entry : Entry} :
    Stored past entry ↔ Submitted past entry.operator entry.operands ∧
      ∃ registry : Registry, registry.verdict entry.operator = .ok entry.parsed := by
  constructor
  · rintro ⟨⟨u, registry, operation⟩, hp, hstores⟩
    rcases hserved _ hp with hnone | ⟨source, operands, d, rfl, -⟩
    · cases hstores <;> cases hnone
    · refine ⟨⟨_, hp, ?_⟩, registry, hstores.verdict_eq⟩
      cases hstores
      rfl
  · rintro ⟨⟨⟨u, registry, operation⟩, hp, rfl⟩, other, hverdict⟩
    rcases hserved _ hp with hnone | ⟨source, operands, d, hoperation, hd⟩
    · cases hnone
    · cases hoperation
      obtain ⟨tree, htree, hstores, -⟩ := exists_stores_of_create hd
      obtain rfl := verdict_unique hverdict htree
      exact ⟨_, hp, hstores⟩

/-- A program is given the digest of its entry. -/
theorem Named.exists_digest_eq {source : String} {operands : List Digest} {d : Digest}
    (h : Named past source operands d) : ∃ (registry : Registry) (tree : Expr),
      registry.verdict source = .ok tree ∧ d = Entry.digest ⟨source, tree, operands⟩ := by
  obtain ⟨p, -, -, hd⟩ := h
  obtain ⟨tree, hverdict, -, hdigest⟩ := exists_stores_of_create hd
  exact ⟨_, tree, hverdict, hdigest⟩

/-- Two runs of calls, over a store that was empty each, neither of which settles, may submit the
    same programs in different orders and some of them more often. If all submissions succeed, and
    the digests of their encodings do not collide, a program is given the same digest whenever it is
    submitted, and in the end both stores list the same digests and give the same under each. -/
theorem same_in_any_order (hs : s.Undisturbed) (hs' : s'.Undisturbed)
    (hsettling : s.settling = none) (hsettling' : s'.settling = none) (hempty : s.IsEmpty)
    (hempty' : s'.IsEmpty) (h : History s past t) (h' : History s' past' t')
    (hserved : AllServed past) (hserved' : AllServed past')
    (hsame : ∀ source operands, Submitted past source operands ↔ Submitted past' source operands)
    (hfree : CollisionFree (past ++ past')) :
    (∀ source operands d d', Named (past ++ past') source operands d →
      Named (past ++ past') source operands d' → d = d') ∧
    (∃ ds, (outcome digests t).1 = some (.ok ds) ∧ (outcome digests t').1 = some (.ok ds)) ∧
    ∀ d, ∃ result, (outcome (fetch d) t).1 = some result ∧
      (outcome (fetch d) t').1 = some result := by
  have hstored : Stored past = Stored past' := by
    funext entry
    exact propext (by rw [stored_iff hserved, stored_iff hserved', hsame])
  have hbytes : t.bytes? = t'.bytes? := by
    refine (holds_of_history hempty h).bytes?_eq (hstored ▸ holds_of_history hempty' h') ?_
    refine fun e f he hf => hfree e f ?_ ?_
    · exact he.imp fun p hp => ⟨List.mem_append_left _ hp.1, hp.2⟩
    · exact hf.imp fun p hp => ⟨List.mem_append_left _ hp.1, hp.2⟩
  have ht := h.settling_eq_none hs hsettling
  have ht' := h'.settling_eq_none hs' hsettling'
  refine ⟨fun source operands d d' hd hd' => ?_, ?_, fun d => ?_⟩
  · obtain ⟨first, tree, hverdict, rfl⟩ := hd.exists_digest_eq
    obtain ⟨second, tree', hverdict', rfl⟩ := hd'.exists_digest_eq
    rw [verdict_unique hverdict hverdict']
  · obtain ⟨ds, hlisted, hincreasing, hmem⟩ :=
      exists_outcome_digests_of_none (h.undisturbed hs) ht
    obtain ⟨ds', hlisted', hincreasing', hmem'⟩ :=
      exists_outcome_digests_of_none (h'.undisturbed hs') ht'
    have hsameDigests : ds = ds' :=
      hincreasing.eq_of_mem_iff hincreasing' fun d => by rw [hmem, hmem', hbytes]
    exact ⟨ds, hlisted, hsameDigests ▸ hlisted'⟩
  · obtain ⟨log, hfetch⟩ := outcome_fetch d t
    obtain ⟨log', hfetch'⟩ := outcome_fetch d t'
    rw [Store.fetch?_of_none ht] at hfetch
    rw [Store.fetch?_of_none ht', ← hbytes] at hfetch'
    exact ⟨_, congrArg Prod.fst hfetch, congrArg Prod.fst hfetch'⟩

/-- In memory and in a folder, where the program that is an operand is submitted twice. -/
theorem same_in_any_order_in_folder :
    let registry : Registry := ⟨3, ⟨0, 0⟩⟩
    let x : Call := ⟨registry, .create "x" []⟩
    let y : Call := ⟨registry, .create "y" []⟩
    let z : Call := ⟨registry, .create "(f x)" [Entry.digest ⟨"x", .symbol "x", []⟩]⟩
    let s : Store := .inMemory none .empty 0
    let disk : Disk := ⟨[], [(["entries"], .folder)], fun _ => none⟩
    let s' : Store := ⟨.folder "/entries", none, disk, 0, []⟩
    ∃ ds, (outcome digests (z.after (x.after (y.after s)))).1 = some (.ok ds) ∧
      (outcome digests (y.after (x.after (z.after (x.after s'))))).1 = some (.ok ds) := by
  intro registry x y z s disk s'
  let e : Entry := ⟨"x", .symbol "x", []⟩
  let f : Entry := ⟨"y", .symbol "y", []⟩
  let g : Entry := ⟨"(f x)", .apply (.symbol "f") [.symbol "x"], [e.digest]⟩
  have hempty' : s'.IsEmpty := Store.isEmpty_of_leadsTo rfl Store.tidy_only.leadsTo fun d => by
    simp [s', disk, Disk.find?, Store.fileIn, List.lookup_cons]
  have he : registry.verdict "x" = .ok e.parsed := by decide +kernel
  have hf : registry.verdict "y" = .ok f.parsed := by decide +kernel
  have hg : registry.verdict "(f x)" = .ok g.parsed := by decide +kernel
  have hafter {u : Store} (hu : u.Undisturbed ∧ u.settling = none) (call : Call) :
      (call.after u).Undisturbed ∧ (call.after u).settling = none :=
    ⟨Call.undisturbed_after hu.1 call, Call.settling_after_eq_none hu.1 hu.2 call⟩
  -- each program is stored in whatever store there is, the last one where its operand has just been
  have hx {u : Store} (hu : u.Undisturbed ∧ u.settling = none) :
      (outcome (registry.create "x" []) u).1 = some (.ok e.digest) :=
    outcome_create_of_none hu.1 hu.2 he (List.forall_mem_nil _)
  have hy {u : Store} (hu : u.Undisturbed ∧ u.settling = none) :
      (outcome (registry.create "y" []) u).1 = some (.ok f.digest) :=
    outcome_create_of_none hu.1 hu.2 hf (List.forall_mem_nil _)
  have hz {u : Store} (hu : u.Undisturbed ∧ u.settling = none) :
      (outcome (registry.create "(f x)" [e.digest]) (x.after u)).1 = some (.ok g.digest) :=
    outcome_create_of_none (hafter hu x).1 (hafter hu x).2 hg
      (List.forall_mem_singleton.2 (visible_after_create hu.1 hu.2 (hx hu)))
  have hstart : s.Undisturbed ∧ s.settling = none := ⟨.memory rfl List.nodup_nil, rfl⟩
  have hstart' : s'.Undisturbed ∧ s'.settling = none := ⟨.folder rfl Store.tidy_only, rfl⟩
  have h : History s [(x.after (y.after s), z), (y.after s, x), (s, y)]
      (z.after (x.after (y.after s))) :=
    ((History.start.call y).call x).call z
  have h' : History s' [(x.after (z.after (x.after s')), y), (z.after (x.after s'), x),
      (x.after s', z), (s', x)] (y.after (x.after (z.after (x.after s')))) :=
    (((History.start.call x).call z).call x).call y
  have hserved : AllServed [(x.after (y.after s), z), (y.after s, x), (s, y)] :=
    ((allServed_nil.create (hy hstart)).create (hx (hafter hstart y))).create (hz (hafter hstart y))
  have hserved' : AllServed [(x.after (z.after (x.after s')), y), (z.after (x.after s'), x),
      (x.after s', z), (s', x)] :=
    (((allServed_nil.create (hx hstart')).create (hz hstart')).create
      (hx (hafter (hafter hstart' x) z))).create (hy (hafter (hafter (hafter hstart' x) z) x))
  have hcalls (call : Call) : call ∈ [z, x, y] ↔ call ∈ [y, x, z, x] := by
    simp only [List.mem_cons, List.not_mem_nil]
    grind
  have hentries : ∀ call ∈ [z, x, y] ++ [y, x, z, x], ∃ entry ∈ [e, f, g], ∃ registry : Registry,
      call = ⟨registry, .create entry.operator entry.operands⟩ ∧
        registry.verdict entry.operator = .ok entry.parsed := by
    intro call hcall
    rw [List.mem_append, ← hcalls, or_self] at hcall
    simp only [List.mem_cons, List.not_mem_nil, or_false] at hcall
    rcases hcall with rfl | rfl | rfl
    · exact ⟨g, by simp, registry, rfl, hg⟩
    · exact ⟨e, by simp, registry, rfl, he⟩
    · exact ⟨f, by simp, registry, rfl, hf⟩
  have hfree : Store.CollisionFree [e, f, g] := by decide +kernel
  refine (same_in_any_order hstart.1 hstart'.1 rfl rfl (Store.isEmpty_inMemory _ _ _) hempty' h h'
    hserved hserved' (fun source operands => ?_) fun a b ha hb => ?_).2.1
  · rw [submitted_iff_mem, submitted_iff_mem]
    exact exists_congr fun call => and_congr_left fun _ => hcalls call
  · exact hfree a (mem_of_stored ha hentries) b (mem_of_stored hb hentries)

end Formulary.Registry
