import AimAnalysis.Proofs.Host.Feeding

/-!
# Who holds a standing

Outcomes that come late are applied to a standing as long as somebody holds it: the player's connection, a
classifier on its own, a registry entry or a handle. Standings are told apart by their numbers, and whoever
lets go of a standing cannot reach it again, so a standing that nobody holds is never held again.

* `Host.Owned` — no two classifiers have the same standing, and all standings exist.
* `Host.Passes` — what every move does to those who refer to standings: a connection keeps its standing,
  registry entries are made from connections online, and handles from standings that are held.
* `Host.standing_after` — a standing that nobody holds stays as it is.

**Main statement** (`Host.late_outcome_of_dropped`): once the connection of a player was dropped, its
standing is held exactly as long as a registry entry or a handle refers to it. Outcomes are applied to it
for as long, and dropped ever after. `Host.exists_outcome_after_drop` is a run in which a registry entry
lets the outcome of a request through whose connection was dropped.
-/

namespace AimAnalysis

/-- A probability is announced. -/
theorem Standing.events_takeProbability_ne_nil (evidence : EvidenceConfig Float)
    (damage : DamageConfig Float) (player : Nat) (s : Standing) (p : Float) :
    Notice.events (s.takeProbability evidence damage player p).2 ≠ [] := by
  simp only [takeProbability, Notice.events, List.filterMap_append]
  exact List.append_ne_nil_of_right_ne_nil _ (List.cons_ne_nil _ _)

namespace Host

variable {h h' : Host}

/-! ### Standings are told apart -/

/-- No two classifiers have the same standing, and all their standings exist. -/
structure Owned (h : Host) : Prop where
  /-- No standing has two classifiers. -/
  distinct : (h.collectors.map (·.standing)).Nodup
  /-- The standings exist. -/
  numbered : ∀ c ∈ h.collectors, c.standing < h.standings.length

/-- Classifiers that come get new standings. -/
theorem Owned.arranged (owned : h.Owned) (a : Arranged h h') : h'.Owned := by
  obtain ⟨gone, kept, hbefore, hafter⟩ := a.collectors
  have hkept : (kept.map (·.standing)).Nodup := by
    have hall := (hbefore.map (·.standing)).nodup owned.distinct
    rw [List.map_append] at hall
    exact (List.nodup_append.mp hall).2.1
  have hsmall : ∀ c ∈ kept, c.standing < h.standings.length := fun c hc =>
    owned.numbered c (hbefore.mem_iff.mpr (List.mem_append_right gone hc))
  rcases hafter with ⟨hafter, hstandings⟩ | ⟨player, hafter, hstandings⟩
  · refine ⟨(hafter.map (·.standing)).symm.nodup hkept, fun c hc => ?_⟩
    rw [hstandings]
    exact hsmall c (hafter.mem_iff.mp hc)
  · have hnew : h.standings.length ∉ kept.map (·.standing) := by
      intro hmem
      obtain ⟨c, hc, heq⟩ := List.mem_map.mp hmem
      exact Nat.lt_irrefl _ (heq ▸ hsmall c hc)
    refine ⟨(hafter.map (·.standing)).symm.nodup (List.nodup_cons.mpr ⟨hnew, hkept⟩),
      fun c hc => ?_⟩
    rw [hstandings, List.length_append, List.length_singleton]
    rcases List.mem_cons.mp (hafter.mem_iff.mp hc) with rfl | hc
    · exact Nat.lt_succ_self _
    · exact Nat.lt_succ_of_lt (hsmall c hc)

/-- A classifier that takes in a tick keeps its standing. -/
theorem Owned.fed (owned : h.Owned) {f : Feeding} (fed : Fed h f h') : h'.Owned := by
  obtain ⟨rest, hbefore, hafter⟩ := fed.collectors
  have hstanding : f.step.classifier.standing = f.classifier.standing :=
    f.classifier.standing_onTick _ _ _ _
  have hsame : (h'.collectors.map (·.standing)).Perm (h.collectors.map (·.standing)) := by
    have hmap := hafter.map Classifier.standing
    rw [List.map_cons, hstanding] at hmap
    exact hmap.trans (hbefore.map Classifier.standing).symm
  refine ⟨hsame.symm.nodup owned.distinct, fun c hc => ?_⟩
  obtain ⟨c₀, hc₀, heq⟩ := List.mem_map.mp (hsame.mem_iff.mp (List.mem_map_of_mem hc))
  rw [fed.length_standings]
  exact heq ▸ owned.numbered c₀ hc₀

theorem Owned.worked (owned : h.Owned) (w : Worked h h') : h'.Owned := by
  refine ⟨w.collectors ▸ owned.distinct, fun c hc => ?_⟩
  rw [w.standings]
  exact owned.numbered c (w.collectors ▸ hc)

/-- Every move leaves standings that are told apart. -/
theorem Owned.after (owned : h.Owned) (clean : h.dispatcher.pool.Clean) (m : Move) :
    (h.after m).Owned := by
  cases hfeeding : h.feeding? m with
  | some f => exact owned.fed (fed_after clean hfeeding)
  | none =>
      cases hworks : m.isWork with
      | true => exact owned.worked (worked_after hworks)
      | false => exact owned.arranged (arranged_after hfeeding hworks)

/-- At every moment, standings are told apart. -/
theorem Reachable.owned (reached : h.Reachable) : h.Owned := by
  induction reached with
  | @made config kind endpoint pool regionsKnown h clean made =>
      obtain ⟨service, -, rfl⟩ := exists_of_ofConfig made
      exact ⟨List.nodup_nil, fun c hc => absurd hc List.not_mem_nil⟩
  | after reached m ih => exact ih.after reached.clean m

/-- The standing of the classifier that a tick is given to exists. -/
theorem Reachable.standing_lt_of_feeding? (reached : h.Reachable) {m : Move} {f : Feeding}
    (feeding : h.feeding? m = some f) : f.standing < h.standings.length :=
  reached.owned.numbered f.classifier (fed_after reached.clean feeding).mem_collectors

/-! ### Who refers to what -/

/-- The standings of the connections, by the numbers of the connections. -/
def owners (h : Host) : List Nat := h.connections.map (·.classifier.standing)

theorem refersTo_eq_true_iff {standing n : Nat} :
    h.refersTo standing n = true ↔ h.owners[n]? = some standing := by
  rw [owners, List.getElem?_map, refersTo]
  cases h.connections[n]? with
  | none => exact ⟨nofun, nofun⟩
  | some c => exact beq_iff_eq.trans Option.some_inj.symm

/-- Somebody holds a standing: a connection online, a registry entry, a classifier, or a handle. -/
theorem isHeld_eq_true_iff {standing : Nat} :
    h.isHeld standing = true ↔
      (∃ n ∈ h.online.values, h.owners[n]? = some standing)
        ∨ (∃ n ∈ h.registry.values, h.owners[n]? = some standing)
        ∨ (∃ c ∈ h.classifiers.values, c.standing = standing)
        ∨ standing ∈ h.handles := by
  simp only [isHeld, Bool.or_eq_true, List.any_eq_true, refersTo_eq_true_iff, beq_iff_eq,
    List.contains_iff_mem, or_assoc]

/-- What a move does to those who refer to standings. -/
structure Passes (h h' : Host) : Prop where
  /-- Connections keep their standings; a new one gets a new standing. -/
  owners : h'.owners = h.owners ∨ h'.owners = h.owners ++ [h.standings.length]
  /-- Players come online with new connections. -/
  online : ∀ n ∈ h'.online.values, n ∈ h.online.values
    ∨ n = h.owners.length ∧ h'.owners[n]? = some h.standings.length
  /-- Registry entries are made for connections online. -/
  registry : ∀ n ∈ h'.registry.values, n ∈ h.registry.values ∨ n ∈ h.online.values
  /-- Classifiers on their own keep their standings; a new one gets a new standing. -/
  classifiers : ∀ c ∈ h'.classifiers.values, c.standing = h.standings.length
    ∨ ∃ c₀ ∈ h.classifiers.values, c₀.standing = c.standing
  /-- Handles are kept on standings that are held. -/
  handles : ∀ standing ∈ h'.handles, standing ∈ h.handles ∨ h.isHeld standing = true

namespace Passes

/-- A move that leaves alone what refers to standings. -/
theorem of_eq (owners : h'.owners = h.owners) (online : h'.online = h.online)
    (registry : h'.registry = h.registry) (classifiers : h'.classifiers = h.classifiers)
    (handles : h'.handles = h.handles) : Passes h h' := by
  refine ⟨.inl owners, fun n hn => .inl ?_, fun n hn => .inl ?_, fun c hc => .inr ⟨c, ?_, rfl⟩,
    fun standing hstanding => .inl ?_⟩
  · exact online ▸ hn
  · exact registry ▸ hn
  · exact classifiers ▸ hc
  · exact handles ▸ hstanding

theorem refl : Passes h h := of_eq rfl rfl rfl rfl rfl

theorem worked (w : Worked h h') : Passes h h' :=
  of_eq (congrArg (List.map _) w.connections) w.online w.registry w.classifiers w.handles

/-- What may be refused. -/
theorem getD {next? : Option Host} (passes : ∀ next, next? = some next → Passes h next) :
    Passes h (next?.getD h) := by
  cases next? with
  | none => exact refl
  | some next => exact passes next rfl

/-- What is said or sent refers to no standing. -/
theorem told (p : Passes h h') (observed : Bool) (notices : List Notice) (tags : List Nat)
    (player standing : Nat) (window : Option (List Tick)) :
    Passes h (((h'.say observed notices).noteRan tags).dispatchSome player standing window) := by
  obtain ⟨howners, honline, hregistry, hclassifiers, hhandles⟩ := p
  cases window with
  | none => exact ⟨howners, honline, hregistry, hclassifiers, hhandles⟩
  | some window => exact ⟨howners, honline, hregistry, hclassifiers, hhandles⟩

/-- A connection that changes keeps its standing. -/
theorem setConnection {player : Nat} {c c' : Connection}
    (connected : h.connection? player = some c)
    (standing : c'.classifier.standing = c.classifier.standing) :
    Passes h (h.setConnection player c') := by
  obtain ⟨n, online, numbered⟩ := connection?_eq_some_iff.mp connected
  rw [setConnection_eq online]
  refine of_eq ?_ rfl rfl rfl rfl
  obtain ⟨hn, rfl⟩ := List.getElem?_eq_some_iff.mp numbered
  have hn' : n < h.owners.length := by rwa [Host.owners, List.length_map]
  have hget : h.owners[n] = h.connections[n].classifier.standing := List.getElem_map _
  change (h.connections.set n c').map (·.classifier.standing) = h.owners
  rw [List.map_set, standing, ← hget]
  exact List.set_getElem_self hn'

end Passes

/-- The standing of the classifier that a tick is given to is held. -/
theorem isHeld_of_feeding? {m : Move} {f : Feeding} (feeding : h.feeding? m = some f) :
    h.isHeld f.standing = true := by
  refine isHeld_eq_true_iff.mpr ?_
  cases m with
  | packet player p =>
      obtain ⟨c, connected, hfeeding⟩ := Option.bind_eq_some_iff.mp feeding
      obtain ⟨n, online, numbered⟩ := connection?_eq_some_iff.mp connected
      have hstanding : f.standing = c.classifier.standing :=
        congrArg Classifier.standing (Connection.classifier_of_feeding? hfeeding).2.1
      refine .inl ⟨n, Table.mem_values_of_get? online, ?_⟩
      rw [owners, List.getElem?_map, numbered, hstanding]
      rfl
  | tick player t eligible =>
      obtain ⟨c, hget, rfl⟩ := Option.map_eq_some_iff.mp feeding
      exact .inr (.inr (.inl ⟨c, Table.mem_values_of_get? hget, rfl⟩))
  | _ => cases feeding

/-- A player who connects gets a new standing. -/
theorem passes_connect {player : Nat} {era : ClientEra} {config : PipelineConfig} {observed : Bool}
    {next : Host} (connects : h.connect player era config observed = .ok next) : Passes h next := by
  obtain ⟨c, ⟨hclassifier, -⟩, rfl⟩ := exists_of_connect connects
  have howners : (h.connections ++ [c]).map (·.classifier.standing)
      = h.owners ++ [h.standings.length] := by
    rw [List.map_append, List.map_singleton, hclassifier]
    rfl
  refine { Passes.refl (h := h) with owners := .inr howners, online := fun n hn => ?_ }
  rcases Table.mem_values_insert hn with rfl | hn
  · have hlength : h.connections.length = h.owners.length := (List.length_map _).symm
    refine .inr ⟨hlength, ?_⟩
    rw [owners, howners, hlength, List.getElem?_concat_length]
  · exact .inl hn

/-- A registry entry is made for a connection online. -/
theorem passes_register (h : Host) (player : Nat) : Passes h (h.after (.register player)) := by
  simp only [after, registered, register?]
  cases honline : h.online.get? player with
  | none => exact .refl
  | some n =>
      cases h.registry.get? player with
      | some _ => exact .refl
      | none =>
          refine { Passes.refl (h := h) with registry := fun m hm => ?_ }
          rcases Table.mem_values_insert hm with rfl | hm
          · exact .inr (Table.mem_values_of_get? honline)
          · exact .inl hm

/-- A classifier that is given a tick keeps its standing. -/
theorem passes_tick (h : Host) (player : Nat) (t : Tick) (eligible : Bool) :
    Passes h (h.after (.tick player t eligible)) := by
  cases hget : h.classifiers.get? player with
  | none =>
      simp only [after, tick?, hget]
      exact .refl
  | some c =>
      let step := c.onTick h.service (h.inDisabledRegion player) t eligible
      let fed : Host := { h with classifiers := h.classifiers.insert player step.classifier }
      have hfed : Passes h fed := by
        refine { Passes.refl (h := h) with classifiers := fun c' hc' => .inr ?_ }
        rcases Table.mem_values_insert hc' with rfl | hc'
        · exact ⟨c, Table.mem_values_of_get? hget, (c.standing_onTick ..).symm⟩
        · exact ⟨c', hc', rfl⟩
      have hafter : h.after (.tick player t eligible)
          = ((fed.say false step.notices).noteRan []).dispatchSome player c.standing step.sent := by
        simp only [after, tick?, hget, noteRan_nil]
        rfl
      rw [hafter]
      exact hfed.told ..

/-- A handle is kept on a standing that is held. -/
theorem passes_keepHandle {standing : Nat} {next : Host} (keeps : h.keepHandle? standing = some next) :
    Passes h next := by
  unfold keepHandle? at keeps
  split at keeps
  · next held =>
      cases keeps
      refine { Passes.refl (h := h) with handles := fun k hk => ?_ }
      rcases List.mem_cons.mp hk with rfl | hk
      · exact .inr held
      · exact .inl hk
  · cases keeps

/-- **Every move** passes on only what was held. -/
theorem passes_after (h : Host) (m : Move) : Passes h (h.after m) := by
  cases m with
  | connect player era config observed =>
      exact .getD fun next hnext => passes_connect (eq_ok_of_toOption hnext)
  | disconnect player =>
      apply Passes.getD
      intro next hnext
      obtain ⟨n, -, rfl⟩ := Option.map_eq_some_iff.mp hnext
      exact { Passes.refl (h := h) with
        online := fun n hn => .inl ((h.online.values_erase_sublist player).subset hn) }
  | packet player p =>
      cases hconnected : h.connection? player with
      | none =>
          simp only [after, receive?, hconnected]
          exact .refl
      | some c =>
          obtain ⟨observed, notices, tags, hafter⟩ := after_packet hconnected p
          rw [hafter]
          exact (Passes.setConnection hconnected (c.standing_onPacket ..)).told ..
  | manage player deed =>
      apply Passes.getD
      intro next hmanaged
      obtain ⟨c, c', observed, notices, tags, connected, ⟨classifier, -⟩, rfl⟩ :=
        exists_of_manage? hmanaged
      have hset : Passes h (h.setConnection player c') :=
        .setConnection connected (congrArg Classifier.standing classifier)
      exact hset.told observed notices tags player 0 none
  | register player => exact h.passes_register player
  | unregister player =>
      simp only [after, unregistered, unregister]
      cases h.registered? player with
      | none => exact .refl
      | some c =>
          exact { Passes.refl (h := h) with
            registry := fun n hn => .inl ((h.registry.values_erase_sublist player).subset hn) }
  | addClassifier player =>
      refine { Passes.refl (h := h) with classifiers := fun c hc => ?_ }
      rcases Table.mem_values_insert hc with rfl | hc
      · exact .inl rfl
      · exact .inr ⟨c, hc, rfl⟩
  | dropClassifier player =>
      exact { Passes.refl (h := h) with
        classifiers := fun c hc =>
          .inr ⟨c, (h.classifiers.values_erase_sublist player).subset hc, rfl⟩ }
  | tick player t eligible => exact h.passes_tick player t eligible
  | keepHandle standing => exact .getD fun next hnext => passes_keepHandle hnext
  | dropHandle standing =>
      exact { Passes.refl (h := h) with handles := fun k hk => .inl (List.mem_of_mem_erase hk) }
  | reload config kind =>
      apply Passes.getD
      intro next hnext
      obtain ⟨service, guards, trace, link, -, -, rfl⟩ := exists_of_reload (eq_ok_of_toOption hnext)
      exact .of_eq rfl rfl rfl rfl rfl
  | region | endpoint | pass | clock => exact .of_eq rfl rfl rfl rfl rfl
  | start | resume | inquire | answer | settle => exact .worked (worked_after rfl)

/-! ### What was let go of -/

/-- A connection keeps its standing. -/
theorem Passes.owner_eq (p : Passes h h') {n : Nat} (made : n < h.owners.length) :
    h'.owners[n]? = h.owners[n]? := by
  rcases p.owners with howners | howners
  · rw [howners]
  · rw [howners, List.getElem?_append_left made]

/-- Whoever is online or registered is so with a connection that was made. -/
structure Linked (h : Host) : Prop where
  /-- Players online. -/
  online : ∀ n ∈ h.online.values, n < h.owners.length
  /-- Players registered. -/
  registry : ∀ n ∈ h.registry.values, n < h.owners.length

theorem Linked.passes (linked : h.Linked) (p : Passes h h') : h'.Linked := by
  have hgrows : h.owners.length ≤ h'.owners.length := by
    rcases p.owners with howners | howners
    · exact Nat.le_of_eq (congrArg List.length howners.symm)
    · rw [howners, List.length_append]
      exact Nat.le_add_right _ _
  refine ⟨fun n hn => ?_, fun n hn => ?_⟩
  · rcases p.online n hn with hn | ⟨-, howner⟩
    · exact Nat.lt_of_lt_of_le (linked.online n hn) hgrows
    · exact (List.getElem?_eq_some_iff.mp howner).1
  · rcases p.registry n hn with hn | hn
    · exact Nat.lt_of_lt_of_le (linked.registry n hn) hgrows
    · exact Nat.lt_of_lt_of_le (linked.online n hn) hgrows

theorem Reachable.linked (reached : h.Reachable) : h.Linked := by
  induction reached with
  | @made config kind endpoint pool regionsKnown h clean made =>
      obtain ⟨service, -, rfl⟩ := exists_of_ofConfig made
      constructor <;> exact fun n hn => absurd hn List.not_mem_nil
  | after _ m ih => exact ih.passes (passes_after _ m)

/-- **A standing that nobody holds is never held again.** -/
theorem Passes.isHeld (p : Passes h h') (linked : h.Linked) {k : Nat}
    (existed : k < h.standings.length) (held : h'.isHeld k = true) : h.isHeld k = true := by
  rw [isHeld_eq_true_iff] at held ⊢
  rcases held with ⟨n, hn, howner⟩ | ⟨n, hn, howner⟩ | ⟨c, hc, hstanding⟩ | hhandle
  · rcases p.online n hn with hn | ⟨-, hnew⟩
    · exact .inl ⟨n, hn, p.owner_eq (linked.online n hn) ▸ howner⟩
    · obtain rfl := Option.some.inj (hnew.symm.trans howner)
      exact absurd existed (Nat.lt_irrefl _)
  · rcases p.registry n hn with hn | hn
    · exact .inr (.inl ⟨n, hn, p.owner_eq (linked.registry n hn) ▸ howner⟩)
    · exact .inl ⟨n, hn, p.owner_eq (linked.online n hn) ▸ howner⟩
  · rcases p.classifiers c hc with hnew | ⟨c₀, hc₀, hsame⟩
    · exact absurd existed (by omega)
    · exact .inr (.inr (.inl ⟨c₀, hc₀, hsame.trans hstanding⟩))
  · rcases p.handles k hhandle with hhandle | held
    · exact .inr (.inr (.inr hhandle))
    · exact isHeld_eq_true_iff.mp held

/-- An outcome for a standing that nobody holds is dropped. -/
theorem settle_of_not_isHeld {s : Settlement} (released : h.isHeld s.standing = false) :
    h.settle s = h.say false [leftNotice s.player] :=
  if_neg (by rw [released]; exact Bool.false_ne_true)

/-- An outcome for a standing that is held is applied to it. -/
theorem settle_of_isHeld {s : Settlement} (held : h.isHeld s.standing = true)
    (existed : s.standing < h.standings.length) :
    (h.settle s).standing s.standing
        = { (h.service.apply s.player (h.standing s.standing) s.outcome).2.1 with
            inFlight :=
              (h.service.apply s.player (h.standing s.standing) s.outcome).2.1.inFlight - 1 }
      ∧ (h.settle s).trace.events
        = h.trace.events
          ++ Notice.events (h.service.apply s.player (h.standing s.standing) s.outcome).2.2 := by
  unfold settle
  rw [if_pos held]
  refine ⟨?_, rfl⟩
  simp only [standing, say, List.getElem?_set_self existed, Option.getD_some]

/-- An outcome changes no other standing. -/
theorem standing_settle_of_ne {s : Settlement} {k : Nat} (ne : s.standing ≠ k) :
    (h.settle s).standing k = h.standing k := by
  unfold settle
  split
  · exact congrArg (Option.getD · _) (List.getElem?_set_ne ne)
  · rfl

/-- Requests that move on change no standing. -/
theorem standings_after_of_isWork {m : Move} (works : m.isWork = true) (idle : m ≠ .settle) :
    (h.after m).standings = h.standings := by
  cases m with
  | start place =>
      simp only [after, startAt]
      split <;> rfl
  | resume place =>
      simp only [after, resumeAt]
      split <;> rfl
  | inquire | answer => rfl
  | settle => exact absurd rfl idle
  | _ => cases works

/-- **A standing that nobody holds stays as it is.** -/
theorem standing_after (reached : h.Reachable) {k : Nat} (released : h.isHeld k = false) (m : Move) :
    (h.after m).standing k = h.standing k := by
  have other : ∀ k', h.isHeld k' = true → k' ≠ k := by
    rintro k' held rfl
    rw [held] at released
    cases released
  cases hfeeding : h.feeding? m with
  | some f =>
      have hne : f.standing ≠ k := other _ (isHeld_of_feeding? hfeeding)
      unfold standing
      rw [(fed_after reached.clean hfeeding).standings]
      cases f.purpose? with
      | none => rfl
      | some p => exact congrArg (Option.getD · _) (List.getElem?_modify_ne _ _ hne)
  | none =>
      cases hworks : m.isWork with
      | false => exact (arranged_after hfeeding hworks).standing_eq k
      | true =>
          by_cases hsettle : m = .settle
          · subst hsettle
            simp only [after, settleNext]
            split
            · rfl
            · next s rest _ =>
                let next : Host := { h with dispatcher := { h.dispatcher with settled := rest } }
                change (next.settle s).standing k = next.standing k
                by_cases held : next.isHeld s.standing = true
                · exact standing_settle_of_ne (other _ held)
                · rw [settle_of_not_isHeld (Bool.eq_false_iff.mpr held)]
                  rfl
          · exact congrArg (fun standings => standings[k]?.getD _)
              (standings_after_of_isWork hworks hsettle)

/-- Standings are never taken away. -/
theorem length_standings_le_after (clean : h.dispatcher.pool.Clean) (m : Move) :
    h.standings.length ≤ (h.after m).standings.length := by
  cases hfeeding : h.feeding? m with
  | some f => exact Nat.le_of_eq (fed_after clean hfeeding).length_standings.symm
  | none =>
      cases hworks : m.isWork with
      | true => exact Nat.le_of_eq (worked_after hworks).standings.symm
      | false => exact (arranged_after hfeeding hworks).length_standings_le

/-- Whatever happens later neither changes a standing that nobody holds nor lets anybody hold it. -/
theorem released_run (reached : h.Reachable) {k : Nat} (existed : k < h.standings.length)
    (released : h.isHeld k = false) (moves : List Move) :
    (h.run moves).standing k = h.standing k ∧ (h.run moves).isHeld k = false := by
  induction moves generalizing h with
  | nil => exact ⟨rfl, released⟩
  | cons m moves ih =>
      have hreleased : (h.after m).isHeld k = false := by
        rw [Bool.eq_false_iff] at released ⊢
        exact fun held => released ((passes_after h m).isHeld reached.linked existed held)
      have hexisted := Nat.lt_of_lt_of_le existed (length_standings_le_after reached.clean m)
      obtain ⟨hstanding, hlater⟩ := ih (reached.after m) hexisted hreleased
      exact ⟨hstanding.trans (standing_after reached released m), hlater⟩

/-! ### Connections that were dropped -/

section

variable {n : Nat} {c : Connection}

theorem standing_lt (reached : h.Reachable) (numbered : h.connections[n]? = some c) :
    c.classifier.standing < h.standings.length := by
  refine reached.owned.numbered c.classifier (List.mem_append_left _ ?_)
  exact List.mem_map_of_mem (List.mem_of_getElem? numbered)

/-- Only its own connection has a standing. -/
theorem eq_of_owner (reached : h.Reachable) (numbered : h.connections[n]? = some c) {m : Nat}
    (owner : h.owners[m]? = some c.classifier.standing) : m = n := by
  have hdistinct : h.owners.Nodup := by
    have hall := reached.owned.distinct
    rw [collectors, List.map_append, List.map_map] at hall
    exact (List.nodup_append.mp hall).1
  have hown : h.owners[n]? = some c.classifier.standing := by
    rw [owners, List.getElem?_map, numbered]
    rfl
  obtain ⟨hm, -⟩ := List.getElem?_eq_some_iff.mp owner
  exact (List.getElem?_inj hm hdistinct).mp (owner.trans hown.symm)

/-- **Who holds the standing of a connection that was dropped.** -/
theorem isHeld_of_dropped (reached : h.Reachable) (numbered : h.connections[n]? = some c)
    (dropped : n ∉ h.online.values) :
    h.isHeld c.classifier.standing = true ↔
      n ∈ h.registry.values ∨ c.classifier.standing ∈ h.handles := by
  have hown : h.owners[n]? = some c.classifier.standing := by
    rw [owners, List.getElem?_map, numbered]
    rfl
  rw [isHeld_eq_true_iff]
  constructor
  · rintro (⟨m, hm, owner⟩ | ⟨m, hm, owner⟩ | ⟨c', hc', same⟩ | hhandle)
    · exact absurd (eq_of_owner reached numbered owner ▸ hm) dropped
    · exact .inl (eq_of_owner reached numbered owner ▸ hm)
    · -- a classifier on its own would share the standing
      have hall := reached.owned.distinct
      rw [collectors, List.map_append] at hall
      have hconnection : c.classifier.standing
          ∈ (h.connections.map (·.classifier)).map (·.standing) :=
        List.mem_map_of_mem (List.mem_map_of_mem (List.mem_of_getElem? numbered))
      exact absurd same.symm ((List.nodup_append.mp hall).2.2 _ hconnection _
        (List.mem_map_of_mem hc'))
    · exact .inr hhandle
  · rintro (hregistered | hhandle)
    · exact .inr (.inl ⟨n, hregistered, hown⟩)
    · exact .inr (.inr (.inr hhandle))

/-- **Outcomes for a connection that was dropped.** Its standing is held exactly as long as a registry
entry or a handle refers to it. As long as it is held, outcomes are applied to it and announced as for a
player online. Once it is not, nobody ever holds it again, and whatever happens, draining included, the
standing stays as it is and its outcomes announce nothing. -/
theorem late_outcome_of_dropped (reached : h.Reachable) (numbered : h.connections[n]? = some c)
    (dropped : n ∉ h.online.values) :
    (h.isHeld c.classifier.standing = true ↔
        n ∈ h.registry.values ∨ c.classifier.standing ∈ h.handles)
      ∧ (h.isHeld c.classifier.standing = true → ∀ s : Settlement,
          s.standing = c.classifier.standing →
            let applied := h.service.apply s.player (h.standing s.standing) s.outcome
            (h.settle s).standing s.standing
                = { applied.2.1 with inFlight := applied.2.1.inFlight - 1 }
              ∧ (h.settle s).trace.events = h.trace.events ++ Notice.events applied.2.2)
      ∧ (h.isHeld c.classifier.standing = false → ∀ moves : List Move,
          (h.run moves).standing c.classifier.standing = h.standing c.classifier.standing
            ∧ (h.run moves).drain.1.standing c.classifier.standing
              = h.standing c.classifier.standing
            ∧ ∀ s : Settlement, s.standing = c.classifier.standing →
                (h.run moves).settle s = (h.run moves).say false [leftNotice s.player]
                  ∧ ((h.run moves).settle s).trace.events = (h.run moves).trace.events) := by
  have existed := standing_lt reached numbered
  refine ⟨isHeld_of_dropped reached numbered dropped, ?_, ?_⟩
  · intro held s hs
    rw [← hs] at held existed
    exact settle_of_isHeld held existed
  · intro released moves
    obtain ⟨hstanding, hreleased⟩ := released_run reached existed released moves
    refine ⟨hstanding, ?_, fun s hs => ?_⟩
    · rw [drain_eq_run, ← run_append]
      exact (released_run reached existed released _).1
    · have hsettle := settle_of_not_isHeld (s := s) (hs.symm ▸ hreleased)
      refine ⟨hsettle, ?_⟩
      rw [hsettle]
      exact List.append_nil _

end

/-! ### A player who left early -/

/-- A player connects, is registered, attacks somebody, turns, and leaves before the window that is sent
comes back. -/
def departed : Host :=
  swift.run
    [.connect 1 .modern {} false, .register 1, .packet 1 (.attack true),
      .packet 1 (.movement { rotation := some ⟨.zero, .zero⟩, onGround := true }), .disconnect 1]

theorem reachable_departed : departed.Reachable := reachable_swift.run _

/-- Once the registry entry is gone, the outcome is dropped. -/
theorem late_outcome_of_dropped_unregistered :
    ∃ (h : Host) (n : Nat) (c : Connection), h.Reachable ∧ h.connections[n]? = some c
      ∧ n ∉ h.online.values ∧ h.isHeld c.classifier.standing = false
      ∧ h.requests.fresh.length = 1
      ∧ (h.advance 0).drain.1.standing c.classifier.standing = h.standing c.classifier.standing := by
  let h := departed.after (.unregister 1)
  have reached : h.Reachable := reachable_departed.after _
  obtain ⟨c, numbered⟩ : ∃ c, h.connections[0]? = some c := ⟨_, rfl⟩
  have dropped : 0 ∉ h.online.values := List.not_mem_nil
  have law := late_outcome_of_dropped reached numbered dropped
  have released : h.isHeld c.classifier.standing = false := by
    cases numbered
    rfl
  obtain ⟨moves, hmoves⟩ := advance_eq_run h 0
  refine ⟨h, 0, c, reached, numbered, dropped, released, rfl, ?_⟩
  rw [hmoves]
  exact (law.2.2 released moves).2.1

/-- **A late outcome that is not dropped.** The connection of a player was dropped before the window that
was sent came back; the registry entry holds the standing, and draining changes the evidence and announces
an event. -/
theorem exists_outcome_after_drop :
    ∃ (h : Host) (n : Nat) (c : Connection), h.Reachable ∧ h.connections[n]? = some c
      ∧ n ∉ h.online.values
      ∧ (h.advance 0).drain.1.trace.events ≠ (h.advance 0).trace.events
      ∧ ((h.advance 0).drain.1.standing c.classifier.standing).evidence
        ≠ (h.standing c.classifier.standing).evidence := by
  let h := departed.advance 0
  let p : Float := Json.Number.toFloat (.natural 1)
  obtain ⟨c, numbered⟩ : ∃ c, departed.connections[0]? = some c := ⟨_, rfl⟩
  have hstanding : c.classifier.standing = 0 := by
    cases numbered
    rfl
  have hdrain : h.drain.1
      = ({ h with dispatcher := { h.dispatcher with settled := [] } } : Host).settle
          ⟨1, 0, .ok (.probability p)⟩ := by
    have hsettled : h.dispatcher.settled = [⟨1, 0, .ofAnswer (.ok (body '1'))⟩] := rfl
    rw [ofAnswer_body (.inr ⟨rfl, rfl⟩)] at hsettled
    rw [drain, hsettled]
    rfl
  have held : h.isHeld 0 = true := rfl
  obtain ⟨hafter, hevents⟩ := settle_of_isHeld
    (h := { h with dispatcher := { h.dispatcher with settled := [] } })
    (s := ⟨1, 0, .ok (.probability p)⟩) held (Nat.lt_succ_self 0)
  refine ⟨departed, 0, c, reachable_departed, numbered, List.not_mem_nil, ?_, ?_⟩
  · intro hsame
    rw [hdrain, hevents] at hsame
    have hnone := List.append_right_eq_self.mp hsame
    exact Standing.events_takeProbability_ne_nil _ _ _ _ _ hnone
  · rw [hstanding, hdrain, hafter]
    change (Evidence.observe h.service.config.evidence .empty p).1 ≠ .empty
    decide

end Host

end AimAnalysis
