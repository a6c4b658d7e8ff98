import Synoik.Staging.Pool

/-!
# Held ranges never overlap

What is held of the chunk that is filled lies below its fill offset, and no other chunk
that is held of is filled. So a claim, which starts at the fill offset, meets nothing.
-/

namespace Synoik

open List
open Option (bind_eq_some_iff bind_some map_eq_some_iff)

namespace StagingPool

variable {held : List HeldRange} {pool post : StagingPool} {chunk : StagingChunk}
  {index len : Nat} {range : HeldRange}

def mapped (pool : StagingPool) : List StagingChunk := pool.chunks.map PooledChunk.chunk

lemma chunkAt_eq (pool : StagingPool) (index : Nat) : pool.chunkAt index = pool.mapped[index]? :=
  getElem?_map.symm

/-- Nothing is held of a chunk. -/
def Free (held : List HeldRange) (chunk : StagingChunk) : Prop :=
  ∀ range ∈ held, range.chunk ≠ chunk

lemma strongCount_eq_one_iff : strongCount held chunk = 1 ↔ Free held chunk := by
  unfold strongCount Free
  simp

lemma one_lt_strongCount (mem : range ∈ held) : strongCount held range.chunk > 1 := by
  have shared : 0 < held.countP fun other => other.chunk == range.chunk :=
    countP_pos_iff.mpr ⟨range, mem, by simp⟩
  unfold strongCount
  omega

/-- A chunk is filled up to the fill offset. -/
structure Fills (held : List HeldRange) (pool : StagingPool) (chunk : StagingChunk) : Prop where
  bounded : pool.used ≤ chunk.capacity
  aligned : pool.align ∣ pool.used ∨ pool.used = chunk.capacity
  below : ∀ {range}, range ∈ held → range.chunk = chunk → range.offset + range.len ≤ pool.used

structure Sound (held : List HeldRange) (pool : StagingPool) : Prop where
  distinct : pool.mapped.Nodup
  numbered : ∀ {chunk}, chunk ∈ pool.mapped → chunk.number < pool.allocations
  kept : ∀ {range}, range ∈ held → range.chunk ∈ pool.mapped
  filling : ∀ {index}, pool.current = some index →
    ∃ chunk, pool.chunkAt index = some chunk ∧ Fills held pool chunk

/-- A chunk stays in the pool and is not started over. -/
structure Keeps (before after : StagingPool) (chunk : StagingChunk) : Prop where
  stays : chunk ∈ after.mapped
  onwards : after.currentChunk = some chunk →
    before.currentChunk = some chunk ∧ before.used ≤ after.used

variable {mid : StagingPool} {chunks kept : List PooledChunk} {allocates : Bool}

lemma Keeps.trans (early : Keeps pool mid chunk) (late : Keeps mid post chunk) :
    Keeps pool post chunk where
  stays := late.stays
  onwards := by
    intro cur
    obtain ⟨cur, less⟩ := late.onwards cur
    obtain ⟨cur, less'⟩ := early.onwards cur
    exact ⟨cur, Nat.le_trans less' less⟩

lemma Keeps.refl (stays : chunk ∈ pool.mapped) : Keeps pool pool chunk where
  stays := stays
  onwards := fun cur => ⟨cur, Nat.le_refl _⟩

lemma currentChunk_eq_some (cur : pool.currentChunk = some chunk) :
    ∃ index, pool.current = some index ∧ pool.chunkAt index = some chunk :=
  bind_eq_some_iff.mp cur

lemma Sound.currentChunk (sound : Sound held pool)
    (cur : pool.currentChunk = some chunk) : Fills held pool chunk := by
  obtain ⟨_, cur, got⟩ := currentChunk_eq_some cur
  obtain ⟨_, has, fills⟩ := sound.filling cur
  rw [got] at has
  cases has
  exact fills

/-- What one function makes of the pool. -/
structure Leads (held : List HeldRange) (before after : StagingPool) : Prop where
  sound : Sound held after
  align : after.align = before.align
  keeps : ∀ {range}, range ∈ held → Keeps before after range.chunk

lemma Leads.trans (early : Leads held pool mid) (late : Leads held mid post) :
    Leads held pool post where
  sound := late.sound
  align := late.align.trans early.align
  keeps := fun mem => (early.keeps mem).trans (late.keeps mem)

lemma Sound.leads (sound : Sound held pool) : Leads held pool pool where
  sound := sound
  align := rfl
  keeps := fun mem => .refl (sound.kept mem)

section Retain

variable {keep : PooledChunk → Bool → Bool} {chunks kept : List PooledChunk}
  {flags : List Bool}

section

variable (res : retain keep chunks flags = some kept)
include res

lemma retain_sublist : kept.Sublist chunks := by
  induction chunks generalizing flags kept with
  | nil =>
    cases res
    exact .refl []
  | cons entry _ ih =>
    cases flags with
    | nil => cases res
    | cons =>
      obtain ⟨_, retained, rfl⟩ := map_eq_some_iff.mp res
      split
      · exact (ih retained).cons_cons entry
      · exact (ih retained).cons entry

lemma mem_of_retain {entry : PooledChunk}
    (mem : entry ∈ chunks) (want : ∀ flag, keep entry flag = true) : entry ∈ kept := by
  induction chunks generalizing flags kept with
  | nil => cases mem
  | cons _ _ ih =>
    cases flags with
    | nil => cases res
    | cons flag =>
      obtain ⟨_, retained, rfl⟩ := map_eq_some_iff.mp res
      rcases mem_cons.mp mem with rfl | mem
      · rw [if_pos (want flag)]
        exact .head _
      · split
        · exact .tail _ (ih retained mem)
        · exact ih retained mem

end

end Retain

/-- Fewer chunks, those among them that something is held of. -/
structure Thins (held : List HeldRange) (pool : StagingPool) (kept : List PooledChunk) : Prop where
  fewer : (kept.map PooledChunk.chunk).Sublist pool.mapped
  stays : ∀ {range}, range ∈ held → range.chunk ∈ kept.map PooledChunk.chunk

lemma Sound.rechunk_leads (sound : Sound held pool)
    (same : chunks.map PooledChunk.chunk = pool.mapped) : Leads held pool { pool with chunks } := by
  have chunkAt_same (index : Nat) :
      StagingPool.chunkAt { pool with chunks } index = pool.chunkAt index := by
    rw [chunkAt_eq, chunkAt_eq]
    exact congrArg (·[index]?) same
  have mapped_same : mapped { pool with chunks } = pool.mapped := same
  refine ⟨⟨?_, ?_, ?_, ?_⟩, rfl, ?_⟩
  · rw [mapped_same]
    exact sound.distinct
  · rw [mapped_same]
    exact sound.numbered
  · rw [mapped_same]
    exact sound.kept
  · intro index cur
    obtain ⟨chunk, got, fills⟩ := sound.filling cur
    exact ⟨chunk, (chunkAt_same index).trans got, fills.bounded, fills.aligned, fills.below⟩
  · intro _ mem
    refine ⟨by rw [mapped_same]; exact sound.kept mem, ?_⟩
    intro cur
    obtain ⟨index, cur, got⟩ := currentChunk_eq_some cur
    rw [chunkAt_same] at got
    exact ⟨bind_eq_some_iff.mpr ⟨index, cur, got⟩, Nat.le_refl _⟩

lemma Sound.retain_thins (sound : Sound held pool) {keep : PooledChunk → Bool → Bool}
    {flags : List Bool} (want : ∀ {entry : PooledChunk}, strongCount held entry.chunk > 1 →
      ∀ flag, keep entry flag = true) (res : retain keep pool.chunks flags = some kept)
    : Thins held pool kept where
  fewer := (retain_sublist res).map _
  stays := by
    intro _ mem
    obtain ⟨entry, inside, chunk⟩ := mem_map.mp (sound.kept mem)
    refine mem_map.mpr ⟨entry, mem_of_retain res inside (want ?_), chunk⟩
    rw [chunk]
    exact one_lt_strongCount mem

lemma chunkAt_of_findIdx? {meets : PooledChunk → Bool}
    (got : chunks.findIdx? meets = some index) :
    ∃ entry, chunks[index]? = some entry ∧ meets entry = true := by
  obtain ⟨bound, here, -⟩ := findIdx?_eq_some_iff_getElem.mp got
  exact ⟨chunks[index], getElem?_eq_getElem bound, here⟩

section

variable (sound : Sound held pool)
include sound

lemma Sound.reindex_leads (thins : Thins held pool kept)
    (after_eq : post = { pool with chunks := kept }) :
    Leads held pool (post.reindex pool.currentChunk) := by
  subst after_eq
  have found_eq {index : Nat}
      (got : (reindex { pool with chunks := kept } pool.currentChunk).current = some index) :
      ∃ chunk, pool.currentChunk = some chunk ∧
        (reindex { pool with chunks := kept } pool.currentChunk).chunkAt index = some chunk ∧
        (reindex { pool with chunks := kept } pool.currentChunk).used = pool.used := by
    obtain ⟨chunk, cur, has⟩ := bind_eq_some_iff.mp got
    obtain ⟨entry, here, same⟩ := chunkAt_of_findIdx? has
    refine ⟨chunk, cur, ?_, ?_⟩
    · exact map_eq_some_iff.mpr ⟨entry, here, beq_iff_eq.mp same⟩
    · unfold reindex
      rw [cur, bind_some, has]
      rfl
  refine ⟨⟨?_, ?_, ?_, ?_⟩, rfl, ?_⟩
  · exact sound.distinct.sublist thins.fewer
  · exact fun mem => sound.numbered (thins.fewer.subset mem)
  · exact thins.stays
  · intro _ cur
    obtain ⟨chunk, old, here, used⟩ := found_eq cur
    obtain ⟨bounded, aligned, lt⟩ := sound.currentChunk old
    refine ⟨chunk, here, ?_, ?_, ?_⟩
    · rw [used]
      exact bounded
    · rw [used]
      exact aligned
    · rw [used]
      exact lt
  · intro _ mem
    refine ⟨thins.stays mem, ?_⟩
    intro cur
    obtain ⟨_, cur, got⟩ := currentChunk_eq_some cur
    obtain ⟨_, old, here, used⟩ := found_eq cur
    rw [got] at here
    cases here
    exact ⟨old, Nat.le_of_eq used.symm⟩

lemma Sound.sweep_leads (res : pool.sweep held = some post) : Leads held pool post := by
  unfold sweep at res
  split at res
  · cases res
    exact sound.leads
  · obtain ⟨_, -, swept⟩ := bind_eq_some_iff.mp res
    obtain ⟨_, retained, rfl⟩ := map_eq_some_iff.mp swept
    refine sound.reindex_leads (sound.retain_thins ?_ retained) rfl
    intro _ shared _
    simp [shared]

lemma Sound.endFrame_leads {elapsed : Nat}
    (res : pool.endFrame held elapsed = some post) : Leads held pool post := by
  obtain ⟨_, -, retired⟩ := bind_eq_some_iff.mp res
  obtain ⟨_, retained, rfl⟩ := map_eq_some_iff.mp retired
  have aged : Leads held pool { pool with
      chunks := pool.chunks.map fun entry =>
        { entry with idle := min (entry.idle + elapsed) maxDuration } } :=
    sound.rechunk_leads (by simp [mapped])
  apply aged.trans
  split
  · refine aged.sound.reindex_leads (aged.sound.retain_thins ?_ retained) rfl
    intro _ shared _
    simp [shared]
  next whole =>
  have same := (retain_sublist retained).eq_of_length_le (Nat.le_of_not_lt whole)
  rw [same]
  exact aged.sound.leads

lemma Sound.rewind_leads (res : pool.rewind held = some post) : Leads held pool post := by
  unfold rewind at res
  split at res
  · cases res
    exact sound.leads
  next index cur =>
  obtain ⟨chunk, got, rfl⟩ := map_eq_some_iff.mp res
  split
  next alone =>
    have free := strongCount_eq_one_iff.mp alone
    have fills : Fills held { pool with used := 0 } chunk :=
      ⟨Nat.zero_le _, .inl (Nat.dvd_zero _), fun mem same => absurd same (free _ mem)⟩
    refine ⟨⟨sound.distinct, sound.numbered, sound.kept, ?_⟩, rfl, ?_⟩
    · intro other has
      rw [show other = index from Option.some.inj (has.symm.trans cur)]
      exact ⟨chunk, got, fills⟩
    · intro range mem
      refine ⟨sound.kept mem, ?_⟩
      intro now
      obtain ⟨other, has, here⟩ := currentChunk_eq_some now
      rw [show other = index from Option.some.inj (has.symm.trans cur)] at here
      exact absurd (Option.some.inj (here.symm.trans got)) (free range mem)
  · exact sound.leads

/-- A chunk is chosen, and there is room above its fill offset. -/
structure Offers (pool : StagingPool) (index len : Nat) (chunk : StagingChunk) : Prop where
  current : pool.current = some index
  found : pool.chunkAt index = some chunk
  room : pool.used + len ≤ chunk.capacity

lemma Sound.start_leads (got : pool.chunkAt index = some chunk)
    (free : Free held chunk) : Leads held pool { pool with used := 0, current := some index } := by
  have fills : Fills held { pool with used := 0, current := some index } chunk :=
    ⟨Nat.zero_le _, .inl (Nat.dvd_zero _), fun mem same => absurd same (free _ mem)⟩
  refine ⟨⟨sound.distinct, sound.numbered, sound.kept, ?_⟩, rfl, ?_⟩
  · intro _ has
    cases has
    exact ⟨chunk, got, fills⟩
  · intro range mem
    refine ⟨sound.kept mem, ?_⟩
    intro now
    have here := now
    exact absurd (Option.some.inj (here.symm.trans got)) (free range mem)

end

lemma checkedAdd_eq_some {one last sum : Nat}
    (res : checkedAdd one last = some sum) : sum = one + last := by
  unfold checkedAdd at res
  split at res
  · exact (Option.some.inj res).symm
  · cases res

lemma nextMultipleOf_spec {val multiple next : Nat}
    (res : nextMultipleOf val multiple = some next) : val ≤ next ∧ multiple ∣ next := by
  unfold nextMultipleOf at res
  split at res
  · cases res
  next positive =>
  split at res
  next divides =>
    cases res
    exact ⟨Nat.le_refl _, Nat.dvd_of_mod_eq_zero divides⟩
  · rw [checkedAdd_eq_some res]
    refine ⟨Nat.le_add_right _ _, val / multiple + 1, ?_⟩
    have split := Nat.div_add_mod val multiple
    have less := Nat.mod_lt val (Nat.pos_of_ne_zero positive)
    rw [Nat.mul_add, Nat.mul_one]
    omega

section

variable (sound : Sound held pool)
include sound

lemma Sound.free_fresh (capacity : Nat) : Free held ⟨pool.allocations, capacity⟩ := by
  intro _ mem same
  have less := sound.numbered (sound.kept mem)
  rw [same] at less
  exact Nat.lt_irrefl _ less

lemma Sound.push_leads (capacity : Nat) : Leads held pool { pool with
      allocations := pool.allocations + 1
      chunks := pool.chunks ++ [⟨⟨pool.allocations, capacity⟩, 0⟩] } := by
  have mapped_eq : mapped { pool with
      allocations := pool.allocations + 1
      chunks := pool.chunks ++ [⟨⟨pool.allocations, capacity⟩, 0⟩] } =
        pool.mapped ++ [⟨pool.allocations, capacity⟩] :=
    map_append
  have chunkAt_old {index : Nat} {chunk : StagingChunk}
      (got : pool.chunkAt index = some chunk) : StagingPool.chunkAt { pool with
        allocations := pool.allocations + 1
        chunks := pool.chunks ++ [⟨⟨pool.allocations, capacity⟩, 0⟩] } index = some chunk := by
    rw [chunkAt_eq] at got ⊢
    rw [mapped_eq]
    rw [getElem?_append_left (List.getElem?_eq_some_iff.mp got).1]
    exact got
  refine ⟨⟨?_, ?_, ?_, ?_⟩, rfl, ?_⟩
  · rw [mapped_eq, nodup_append]
    refine ⟨sound.distinct, by simp, ?_⟩
    rintro chunk mem _ last rfl
    have less := sound.numbered mem
    rw [mem_singleton.mp last] at less
    exact Nat.lt_irrefl _ less
  · intro chunk mem
    rw [mapped_eq] at mem
    rcases mem_append.mp mem with mem | last
    · exact Nat.lt_succ_of_lt (sound.numbered mem)
    · rw [mem_singleton.mp last]
      exact Nat.lt_succ_self _
  · intro range mem
    rw [mapped_eq]
    exact mem_append_left _ (sound.kept mem)
  · intro index cur
    obtain ⟨chunk, got, fills⟩ := sound.filling cur
    exact ⟨chunk, chunkAt_old got, fills.bounded, fills.aligned, fills.below⟩
  · intro _ mem
    refine ⟨by rw [mapped_eq]; exact mem_append_left _ (sound.kept mem), ?_⟩
    intro cur
    obtain ⟨index, cur, got⟩ := currentChunk_eq_some cur
    obtain ⟨_, old, -⟩ := sound.filling cur
    rw [chunkAt_old old] at got
    cases got
    exact ⟨bind_eq_some_iff.mpr ⟨index, cur, old⟩, Nat.le_refl _⟩

lemma Sound.grow_leads {got : Option Nat}
    (res : pool.grow held len allocates = some (post, got)) :
    Leads held pool post ∧ ∀ {index}, got = some index →
      ∃ chunk, post.chunkAt index = some chunk ∧ Free held chunk ∧ len ≤ chunk.capacity := by
  obtain ⟨swept, sweeps, rest⟩ := bind_eq_some_iff.mp res
  obtain ⟨capacity, sized, same⟩ := map_eq_some_iff.mp rest
  have leads := sound.sweep_leads sweeps
  split at same
  · cases same
    refine ⟨leads.trans (leads.sound.push_leads capacity), ?_⟩
    rintro index ⟨⟩
    refine ⟨⟨swept.allocations, capacity⟩, ?_, leads.sound.free_fresh capacity, ?_⟩
    · unfold chunkAt
      rw [getElem?_concat_length]
      rfl
    · split at sized
      · exact (nextMultipleOf_spec sized).1
      · cases sized
        exact Nat.le_max_left _ _
  · cases same
    refine ⟨leads, ?_⟩
    rintro index ⟨⟩

lemma Sound.choose_leads {chosen : Option Nat}
    (res : pool.choose held len allocates = some (post, chosen)) :
    Leads held pool post ∧ ∀ {index}, chosen = some index →
      ∃ chunk, Offers post index len chunk := by
  obtain ⟨fitting, fits, rest⟩ := bind_eq_some_iff.mp res
  cases fitting with
  | some index =>
    cases rest
    refine ⟨sound.leads, ?_⟩
    rintro index ⟨⟩
    unfold currentFits at fits
    split at fits
    · cases fits
    next index cur =>
    split at fits
    · cases fits
    · obtain ⟨chunk, got, rest⟩ := bind_eq_some_iff.mp fits
      obtain ⟨_, sum, same⟩ := map_eq_some_iff.mp rest
      split at same
      next room =>
        cases same
        rw [checkedAdd_eq_some sum] at room
        exact ⟨chunk, cur, got, room⟩
      · cases same
  | none =>
    obtain ⟨⟨grown, got⟩, taken, same⟩ := map_eq_some_iff.mp rest
    have leads : Leads held pool grown ∧ ∀ {index}, got = some index →
        ∃ chunk, grown.chunkAt index = some chunk ∧ Free held chunk ∧ len ≤ chunk.capacity := by
      split at taken
      next free has =>
        cases taken
        refine ⟨sound.leads, ?_⟩
        rintro index ⟨⟩
        obtain ⟨entry, here, meets⟩ := chunkAt_of_findIdx? has
        rw [Bool.and_eq_true, decide_eq_true_iff, decide_eq_true_iff] at meets
        exact ⟨entry.chunk, map_eq_some_iff.mpr ⟨entry, here, rfl⟩,
          strongCount_eq_one_iff.mp meets.1, meets.2⟩
      · exact sound.grow_leads taken
    cases got with
    | none =>
      cases same
      refine ⟨leads.1, ?_⟩
      rintro index ⟨⟩
    | some index =>
      obtain ⟨chunk, here, free, room⟩ := leads.2 rfl
      cases same
      refine ⟨leads.1.trans (leads.1.sound.start_leads here free), ?_⟩
      rintro index ⟨⟩
      refine ⟨chunk, rfl, here, ?_⟩
      rw [Nat.zero_add]
      exact room

end

/-- The range that a claim gives lies above everything that is held of its chunk. -/
structure Gives (held : List HeldRange) (before after : StagingPool) (range : HeldRange) :
    Prop where
  sound : Sound (held ++ [range]) after
  align : after.align = before.align
  keeps : ∀ {old}, old ∈ held → Keeps before after old.chunk
  inside : range.offset + range.len ≤ range.chunk.capacity
  aligned : before.align ∣ range.offset
  above : ∀ {old}, old ∈ held → old.chunk = range.chunk → old.offset + old.len ≤ range.offset

lemma map_modify (pool : StagingPool) (index : Nat) :
    (pool.chunks.modify index fun entry => { entry with idle := 0 }).map PooledChunk.chunk =
      pool.mapped := by
  refine ext_getElem? fun other => ?_
  rw [getElem?_map, getElem?_modify, mapped, getElem?_map]
  cases pool.chunks[other]? with
  | none => rfl
  | some => by_cases here : index = other <;> simp [here]

lemma Sound.bump_gives (sound : Sound held pool) (positive : 0 < len)
    (offers : Offers pool index len chunk) {offset : Nat}
    (res : pool.bump index len = some (post, offset)) :
    post.chunkAt index = some chunk ∧ Gives held pool post { chunk, offset, len } := by
  unfold bump at res
  rw [offers.found, bind_some] at res
  obtain ⟨_, sum, rest⟩ := bind_eq_some_iff.mp res
  obtain ⟨next, rounded, same⟩ := map_eq_some_iff.mp rest
  cases same
  obtain ⟨reaches, divides⟩ := nextMultipleOf_spec rounded
  have stop_eq := checkedAdd_eq_some sum
  subst stop_eq
  have room := offers.room
  obtain ⟨other, has, fills⟩ := sound.filling offers.current
  rw [offers.found] at has
  cases has
  have leads := sound.rechunk_leads (pool.map_modify index)
  have got := offers.found
  rw [chunkAt_eq, ← pool.map_modify index] at got
  have reached := Nat.le_min.mpr ⟨reaches, room⟩
  have current_eq {other : Nat} (has : pool.current = some other) : other = index :=
    Option.some.inj (has.symm.trans offers.current)
  refine ⟨(chunkAt_eq _ _).trans got, ⟨leads.sound.distinct, leads.sound.numbered, ?_, ?_⟩,
    rfl, ?_, room, ?_, ?_⟩
  · intro range mem
    rcases mem_append.mp mem with mem | last
    · exact leads.sound.kept mem
    · rw [mem_singleton.mp last]
      exact mem_of_getElem? got
  · intro _ has
    rw [current_eq has]
    refine ⟨chunk, (chunkAt_eq _ _).trans got, Nat.min_le_right _ _, ?_, ?_⟩
    · rcases Nat.le_total next chunk.capacity with less | less
      · left
        rw [Nat.min_eq_left less]
        exact divides
      · exact .inr (Nat.min_eq_right less)
    · intro _ mem same
      refine Nat.le_trans ?_ reached
      rcases mem_append.mp mem with mem | last
      · exact Nat.le_trans (fills.below mem same) (Nat.le_add_right _ _)
      · rw [mem_singleton.mp last]
  · intro old mem
    refine ⟨(leads.keeps mem).stays, ?_⟩
    intro cur
    obtain ⟨_, has, here⟩ := currentChunk_eq_some cur
    rw [current_eq has, chunkAt_eq] at here
    have same : chunk = old.chunk := Option.some.inj (got.symm.trans here)
    exact ⟨bind_eq_some_iff.mpr ⟨index, offers.current, same ▸ offers.found⟩,
      Nat.le_trans (Nat.le_add_right _ _) reached⟩
  · -- The offset is not at the end of the chunk, where it need not be aligned.
    rcases fills.aligned with divides | _
    · exact divides
    · omega
  · exact fun mem same => fills.below mem same

lemma Sound.hold_leads (sound : Sound held pool) {given : Option HeldRange}
    (res : pool.hold held len allocates = some (post, given)) : match given with
    | none => Leads held pool post
    | some range => Gives held pool post range := by
  unfold hold claim at res
  obtain ⟨⟨_, _⟩, claims, taken⟩ := bind_eq_some_iff.mp res
  split at claims
  · cases claims
  next positive =>
  obtain ⟨_, rewinds, rest⟩ := bind_eq_some_iff.mp claims
  obtain ⟨⟨_, index⟩, chooses, bumps⟩ := bind_eq_some_iff.mp rest
  have rewinds := sound.rewind_leads rewinds
  obtain ⟨leads, offers⟩ := rewinds.sound.choose_leads chooses
  have leads := rewinds.trans leads
  cases index with
  | none =>
    cases bumps
    cases taken
    exact leads
  | some =>
    obtain ⟨_, offers⟩ := offers rfl
    obtain ⟨⟨_, _⟩, moved, same⟩ := map_eq_some_iff.mp bumps
    cases same
    obtain ⟨got, gives⟩ := leads.sound.bump_gives (Nat.pos_of_ne_zero positive) offers moved
    obtain ⟨_, has, same⟩ := map_eq_some_iff.mp taken
    rw [got] at has
    cases has
    cases same
    refine ⟨gives.sound, gives.align.trans leads.align, ?_, gives.inside, ?_, gives.above⟩
    · exact fun mem => (leads.keeps mem).trans (gives.keeps mem)
    · exact leads.align ▸ gives.aligned

end StagingPool

namespace Staging

open StagingPool

variable {staging post : Staging} {op : StagingOp}

/-- Two ranges share no byte. -/
def Apart (first second : HeldRange) : Prop :=
  first.chunk = second.chunk →
    first.offset + first.len ≤ second.offset ∨ second.offset + second.len ≤ first.offset

/-- What is held lies in its chunk, aligned, and apart. -/
structure Safe (staging : Staging) : Prop where
  sound : Sound staging.held staging.pool
  inside : ∀ {range}, range ∈ staging.held → range.offset + range.len ≤ range.chunk.capacity
  aligned : ∀ {range}, range ∈ staging.held → staging.pool.align ∣ range.offset
  disjoint : staging.held.Pairwise Apart

lemma Sound.mono {fewer held : List HeldRange} {pool : StagingPool} (sound : Sound held pool)
    (sublist : fewer.Sublist held) : Sound fewer pool where
  distinct := sound.distinct
  numbered := sound.numbered
  kept := fun mem => sound.kept (sublist.subset mem)
  filling := by
    intro _ cur
    obtain ⟨chunk, got, fills⟩ := sound.filling cur
    exact ⟨chunk, got, fills.bounded, fills.aligned, fun mem => fills.below (sublist.subset mem)⟩

/-- One operation keeps everything, and the chunks that something is held of. -/
structure Goes (staging after : Staging) : Prop where
  safe : after.Safe
  align : after.pool.align = staging.pool.align
  keeps : ∀ {range}, range ∈ staging.held → Keeps staging.pool after.pool range.chunk

lemma Safe.take_goes (safe : staging.Safe) {len : Nat} {allocates : Bool}
    (res : staging.take (staging.pool.hold staging.held len allocates) = some post) :
    Goes staging post := by
  obtain ⟨⟨_, given⟩, holds, rfl⟩ := map_eq_some_iff.mp res
  have leads := safe.sound.hold_leads holds
  cases given with
  | none =>
    dsimp only [Option.toList_none]
    rw [append_nil]
    exact ⟨⟨leads.sound, safe.inside, fun mem => leads.align ▸ safe.aligned mem,
      safe.disjoint⟩, leads.align, leads.keeps⟩
  | some =>
    refine ⟨⟨leads.sound, ?_, ?_, ?_⟩, leads.align, leads.keeps⟩
    · intro old mem
      rcases mem_append.mp mem with mem | last
      · exact safe.inside mem
      · rw [mem_singleton.mp last]
        exact leads.inside
    · intro old mem
      rw [leads.align]
      rcases mem_append.mp mem with mem | last
      · exact safe.aligned mem
      · rw [mem_singleton.mp last]
        exact leads.aligned
    · refine pairwise_append.mpr ⟨safe.disjoint, pairwise_singleton _ _, ?_⟩
      intro _ mem _ last same
      rw [mem_singleton.mp last] at same ⊢
      exact .inl (leads.above mem same)

lemma Safe.step_goes (safe : staging.Safe) (ran : staging.step op = some post) :
    Goes staging post := by
  cases op with
  | stage | stageWith | reserve => exact safe.take_goes ran
  | drop index =>
    cases ran
    have sublist := eraseIdx_sublist staging.held index
    exact ⟨⟨Sound.mono safe.sound sublist, fun mem => safe.inside (sublist.subset mem),
      fun mem => safe.aligned (sublist.subset mem), safe.disjoint.sublist sublist⟩,
      rfl, fun mem => .refl (safe.sound.kept mem)⟩
  | endFrame =>
    obtain ⟨_, ends, rfl⟩ := map_eq_some_iff.mp ran
    have leads := safe.sound.endFrame_leads ends
    exact ⟨⟨leads.sound, safe.inside, fun mem => leads.align ▸ safe.aligned mem,
      safe.disjoint⟩, leads.align, leads.keeps⟩

lemma safe_initially (align residentBudget : Nat) : (new align residentBudget).Safe where
  sound := ⟨nodup_nil, nofun, nofun, fun cur => absurd cur (by simp [new])⟩
  inside := nofun
  aligned := nofun
  disjoint := List.Pairwise.nil

/-- In every run, the ranges that are held share no byte, lie in their chunks and start at
multiples of the alignment. No operation drops a chunk that something is held of, or starts
it over. -/
theorem ranges_apart {align residentBudget : Nat} {ops : List StagingOp}
    (run : Runs step (fun _ _ => True) (new align residentBudget) ops staging) :
    staging.held.Pairwise Apart ∧
      (∀ range ∈ staging.held, range.offset + range.len ≤ range.chunk.capacity ∧
        align ∣ range.offset ∧ range.chunk ∈ staging.pool.mapped) ∧
      ∀ ⦃op after⦄, staging.step op = some after → ∀ range ∈ staging.held,
        range.chunk ∈ after.pool.mapped ∧ (after.pool.currentChunk = some range.chunk →
            staging.pool.currentChunk = some range.chunk ∧
              staging.pool.used ≤ after.pool.used) := by
  obtain ⟨safe, same⟩ := run.invariant (fun staging => staging.Safe ∧ staging.pool.align = align)
    (fun _ stepped ⟨safe, same⟩ =>
      have goes := safe.step_goes stepped
      ⟨goes.safe, goes.align.trans same⟩)
    ⟨safe_initially align residentBudget, rfl⟩
  refine ⟨safe.disjoint, ?_, ?_⟩
  · exact fun range member =>
      ⟨safe.inside member, same ▸ safe.aligned member, safe.sound.kept member⟩
  · intro _ _ stepped _ member
    have keeps := (safe.step_goes stepped).keeps member
    exact ⟨keeps.stays, keeps.onwards⟩

/-- Two uploads share a chunk, a large one has its own, and the first is dropped. -/
def sharedRun : List StagingOp :=
  [.stageWith 1000 true, .reserve 3000000 true, .stageWith 20000000 true, .stageWith 500 true,
    .drop 0, .endFrame 3000000000, .stage [1, 2, 3] true]

theorem ranges_apart_shared :
    ∃ staging : Staging, staging.held.map HeldRange.offset = [1024, 0, 20000000, 20000512] ∧
      staging.held.Pairwise Apart := by
  have run : Runs step (fun _ _ => True) (new 256 oversizedResidentBytes) sharedRun _ :=
    runs_get (by decide +kernel)
  exact ⟨_, by decide +kernel, (ranges_apart run).1⟩

end Staging

end Synoik
