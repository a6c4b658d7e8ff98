import Synoik.Shm.Upload

/-!
# Copies land on the commit they were made for

A finished copy is queued if the surface still has the buffer it was read from.
That the copy was started after the buffer's last commit rests on every later
commit having waited behind it.
-/

namespace Synoik.Shm

variable {Buffer Value : Type*} {data : Buffer → BufferData}
  {st post : State Buffer Value} {buffer : Buffer} {damage : List Rect}
  {ans : Answers} {flight : InFlight Buffer} {copy : Deferred Buffer}

/-- The copy was started late enough and brings what its buffer holds. -/
def Landing.Current (landing : Landing Value) : Prop :=
  landing.committed ≤ landing.started ∧
    ∀ p, landing.size.bounds.Covers p → landing.staged p = landing.content p

/-- The surface's texture shows what its buffer holds. -/
def State.Shows (state : State Buffer Value) : Prop :=
  ∃ entry buffer, state.entry = some entry ∧ state.attached = some buffer ∧
    ∀ p, entry.tex.size.bounds.Covers p → entry.tex.pixels p = state.content buffer p

structure Straight (data : Buffer → BufferData) (state : State Buffer Value) : Prop where
  counted : ∀ buffer, state.committed buffer ≤ state.commits
  paired : state.jobs.map (·.buffer) = (state.flight.map (·.buffer)).toList
  sized : ∀ flight, state.flight = some flight → flight.size = (data flight.buffer).size ∧
    ∀ next, flight.next = some next → next.size = (data next.buffer).size
  current : ∀ flight, state.flight = some flight → flight.next = none →
    state.imported → state.attached = some flight.buffer → ∀ job ∈ state.jobs,
      state.committed flight.buffer ≤ job.started ∧
      ∀ p : Point, 0 ≤ p.2 → p.2 < job.rows → job.staged p = state.content flight.buffer p
  landed : ∀ landing ∈ state.landings, landing.Current

namespace Straight

variable {reported : List Rect} {shown : Option (Buffer × (Point → Value))}

lemma ofIdle (counted : ∀ buffer, st.committed buffer ≤ st.commits)
    (landed : ∀ landing ∈ st.landings, landing.Current) (flight : st.flight = none)
    (jobs : st.jobs = []) : Straight data st :=
  ⟨counted, by simp [flight, jobs], by simp [flight], by simp [flight], landed⟩

lemma idle (holds : Straight data st) (flight : st.flight = none) : st.jobs = [] := by
  simpa [flight] using holds.paired

lemma freshImport {ok : Bool} {size : Size} {fourcc : Fourcc}
    (holds : Straight data st) (attached : st.attached = some buffer)
    (ne : ∀ flight, st.flight = some flight → flight.buffer ≠ buffer)
    (run : st.freshImport buffer size fourcc ans = (ok, post)) :
    Straight data { post with imported := ok, reported, shown } := by
  unfold State.freshImport at run
  split at run <;> cases run
  · refine ⟨holds.counted, ?_, ?_, ?_, holds.landed⟩
    · simpa [Function.comp_def] using holds.paired
    · intro flight has
      obtain ⟨old, pre, rfl⟩ := Option.map_eq_some_iff.mp has
      exact ⟨(holds.sized old pre).1, nofun⟩
    · intro _ has _ _ same
      obtain ⟨old, pre, rfl⟩ := Option.map_eq_some_iff.mp has
      exact absurd (Option.some.inj (attached.symm.trans same)).symm (ne old pre)
  · exact ⟨holds.counted, holds.paired, holds.sized, nofun, holds.landed⟩

variable [Inhabited Value]

lemma passOn_landings (st : State Buffer Value) (flight : InFlight Buffer) (ans : Answers) :
    (st.passOn flight ans).landings = st.landings := by
  unfold State.passOn State.startShmUpload State.carryShmDamage
  split
  · rfl
  · dsimp only
    split
    next begun =>
      obtain ⟨_, begun⟩ := Option.ite_none_right_eq_some.mp begun
      cases begun
      rfl
    all_goals rfl

section

variable (holds : Straight data st)
include holds

lemma started (flight : st.flight = none) (fits : copy.size = (data copy.buffer).size)
    (run : st.startShmUpload copy ans = some post) (imported : Bool) :
    Straight data { post with imported, reported, shown } := by
  unfold State.startShmUpload at run
  split at run <;> cases run
  rw [holds.idle flight]
  refine ⟨holds.counted, rfl, ?_, ?_, holds.landed⟩
  · rintro _ ⟨⟩
    exact ⟨fits, nofun⟩
  · rintro _ ⟨⟩ _ _ _ _ among
    obtain rfl := List.mem_singleton.mp among
    exact ⟨holds.counted _, fun p above lt => absurd lt (by simpa using above)⟩

variable {ok : Bool}

lemma refresh {entry : CacheEntry Value} (fits : copy.size = (data copy.buffer).size)
    (run : st.refresh entry copy ans = (ok, post)) :
    Straight data { post with imported := ok, reported, shown } := by
  unfold State.refresh at run
  split at run
  next busy =>
    obtain ⟨flight, has⟩ := Option.isSome_iff_exists.mp busy
    cases run
    -- The commit waits, so the copy before it will not land.
    refine ⟨holds.counted, ?_, ?_, ?_, holds.landed⟩ <;>
      simp only [State.deferShmUpload, has, Option.map_some]
    · simpa [has] using holds.paired
    · rintro _ ⟨⟩
      exact ⟨(holds.sized flight has).1, by rintro _ ⟨⟩; exact fits⟩
    · rintro _ ⟨⟩ ⟨⟩
  next free =>
  have free : st.flight = none := by simpa using free
  dsimp only at run
  split at run
  next begun =>
    cases run
    split at begun
    · exact holds.started free fits begun _
    · cases begun
  next =>
    cases run
    exact ofIdle holds.counted holds.landed free (holds.idle free)
  next =>
  split at run <;> cases run <;>
    exact ofIdle holds.counted holds.landed free (holds.idle free)

lemma importShmBuffer (attached : st.attached = some buffer)
    (ne : ∀ flight, st.flight = some flight → flight.buffer = buffer →
      st.reusable data buffer ≠ none)
    (run : st.importShmBuffer data buffer damage ans = (ok, post)) :
    Straight data { post with imported := ok, reported, shown } := by
  have taken : Straight data { st with entry := st.entry.map ({ · with carry := [] }) } :=
    ⟨holds.counted, holds.paired, holds.sized, holds.current, holds.landed⟩
  dsimp only [State.importShmBuffer] at run
  split at run
  · split at run
    · exact taken.refresh rfl run
    next unusable =>
    refine taken.freshImport attached (fun flight has same => ?_) run
    apply ne flight has same
    simp only [State.reusable, Option.filter_eq_none_iff] at unusable ⊢
    intro entry has
    exact unusable { entry with carry := [] } (by simp [has])
  · cases run
    exact ⟨holds.counted, holds.paired, holds.sized, nofun, holds.landed⟩

lemma passOn (free : st.flight = none)
    (fits : ∀ next, flight.next = some next → next.size = (data next.buffer).size) :
    Straight data (st.passOn flight ans) := by
  have idle := holds.idle free
  unfold State.passOn
  split
  · exact ofIdle holds.counted holds.landed free idle
  next next waits =>
  dsimp only
  split
  next begun =>
    refine holds.started free ?_ begun _
    exact fits next waits
  all_goals exact ofIdle holds.counted holds.landed free idle

lemma landShmUpload [DecidableEq Buffer] {job : Job Buffer Value}
    {rest : List (Job Buffer Value)} {ended : Bool}
    (head : st.jobs = job :: rest) (whole : ended → (data job.buffer).size.h ≤ job.rows) :
    Straight data (st.landShmUpload job rest ended ans) ∧
      ((st.landShmUpload job rest ended ans).landings ≠ st.landings →
        (st.landShmUpload job rest ended ans).Shows) := by
  obtain ⟨counted, paired, sized, cur, landed⟩ := holds
  rw [head] at paired
  cases has : st.flight with
  | none => simp [has] at paired
  | some flight =>
    obtain ⟨same, rfl⟩ : job.buffer = flight.buffer ∧ rest = [] := by
      simpa [has] using paired
    unfold State.landShmUpload
    rw [has]
    dsimp only
    split
    next _ got =>
      simp only [Option.filter_eq_some_iff, decide_eq_true_eq, Bool.and_eq_true,
        Option.isNone_iff_eq_none] at got
      obtain ⟨_, done, ⟨⟨last, shows⟩, mine⟩, size, _⟩ := got
      have ⟨late, copied⟩ := cur flight has last shows mine job (by simp [head])
      have brings : ∀ p, flight.size.bounds.Covers p →
          job.staged p = st.content flight.buffer p := by
        refine fun p inside => copied p inside.2.2.1 ?_
        have enough := whole done
        have lt := inside.2.2.2
        rw [same, ← (sized flight has).1] at enough
        simp only [Size.bounds] at lt
        omega
      refine ⟨ofIdle counted ?_ rfl rfl, fun _ => ⟨_, flight.buffer, rfl, mine, size ▸ brings⟩⟩
      intro landing among
      rcases List.mem_cons.mp among with rfl | old
      · exact ⟨late, brings⟩
      · exact landed landing old
    next =>
    refine ⟨passOn (ofIdle counted landed rfl rfl) rfl (sized flight has).2, fun lands => ?_⟩
    rw [passOn_landings] at lands
    exact absurd rfl lands

end

end Straight

/-- No import allocates a new texture for the very buffer a copy is reading. -/
def Apart (data : Buffer → BufferData) (state : State Buffer Value) : Op Buffer Value → Prop
  | .importSurface _ => ∀ flight, state.flight = some flight →
      state.attached = some flight.buffer → state.reusable data flight.buffer ≠ none
  | _ => True

variable [Inhabited Value] [DecidableEq Buffer]

lemma step_straight {op : Op Buffer Value} (apart : Apart data st op)
    (ran : step data st op = some post) (holds : Straight data st) : Straight data post := by
  cases op with
  | write buffer =>
    obtain ⟨other, rfl⟩ := by simpa [step] using ran
    refine ⟨holds.counted, holds.paired, holds.sized, ?_, holds.landed⟩
    intro flight has last shows mine job among
    have ⟨late, copied⟩ := holds.current flight has last shows mine job among
    refine ⟨late, fun p above lt => (copied p above lt).trans ?_⟩
    have ne : flight.buffer ≠ buffer := by
      rintro rfl
      exact other mine
    simp [Function.update_of_ne ne]
  | commit =>
    cases ran
    refine ⟨?_, holds.paired, holds.sized, nofun, holds.landed⟩
    intro other
    have := holds.counted other
    grind [Function.update_apply]
  | enableUploads =>
    cases ran
    exact ⟨holds.counted, holds.paired, holds.sized, holds.current, holds.landed⟩
  | importSurface =>
    simp only [step] at ran
    split at ran
    next buffer attached _ =>
      have ne : ∀ flight, st.flight = some flight → flight.buffer = buffer →
          st.reusable data buffer ≠ none := by
        rintro flight has rfl
        exact apart flight has attached
      cases ran
      exact holds.importShmBuffer attached ne rfl
    next => cases ran
  | copyBand =>
    simp only [step] at ran
    split at ran <;> cases ran
    next job rest head =>
    have paired := holds.paired
    rw [head] at paired
    refine ⟨holds.counted, paired, holds.sized, ?_, holds.landed⟩
    intro flight has last shows mine _ among
    rw [show st.flight = some flight from has] at paired
    obtain ⟨same, rfl⟩ : job.buffer = flight.buffer ∧ rest = [] := by simpa using paired
    have ⟨late, copied⟩ := holds.current flight has last shows mine job (by simp [head])
    obtain rfl := List.mem_singleton.mp among
    refine ⟨late, fun p above lt => ?_⟩
    have := copied p above
    grind
  | land =>
    simp only [step] at ran
    split at ran
    · cases ran
    next job rest head =>
    split at ran <;> cases ran
    next whole =>
    exact (holds.landShmUpload head fun done => by simpa [done] using whole).1

/-- Every copy that is queued was started after the last commit of its buffer, and brings what
the buffer holds. What the texture then shows is what the surface's buffer holds. -/
theorem landings_current {content : Buffer → Point → Value}
    {ops : List (Op Buffer Value)} {finish : State Buffer Value}
    (run : Runs (step data) (Apart data) { content } ops finish) :
    (∀ landing ∈ finish.landings, landing.Current) ∧ ∀ finished answers after,
      step data finish (.land finished answers) = some after → after.landings ≠ finish.landings →
        after.Shows := by
  have straight := run.invariant (Straight data) step_straight ⟨by simp, rfl, nofun, nofun, nofun⟩
  refine ⟨straight.landed, fun finished answers after ran => ?_⟩
  simp only [step] at ran
  split at ran
  · cases ran
  next job rest head =>
  split at ran <;> cases ran
  next whole =>
  exact (straight.landShmUpload head fun done => by simpa [done] using whole).2

/-- Buffer `true` is a big square, buffer `false` a flat one. -/
def twoSizes (buffer : Bool) : BufferData := ⟨⟨4096, if buffer then 4096 else 1⟩, some .argb8888⟩

/-- The first commit allocates the texture, the second is copied off the frame. -/
def copying : List (Op Bool Bool) :=
  [.enableUploads, .commit true [], .importSurface {},
    .commit true [⟨0, 0, 4096, 4096⟩], .importSurface {}]

theorem landings_current_copying : ∃ pre after : State Bool Bool,
      Runs (step twoSizes) (Apart twoSizes) { content := fun _ _ => false }
        (copying ++ [.copyBand 4096]) pre ∧ step twoSizes pre (.land true {}) = some after ∧
      after.Shows := by
  have run : Runs (step twoSizes) (Apart twoSizes) { content := fun _ _ => false }
      (copying ++ [.copyBand 4096]) _ := .cons trivial rfl (.cons trivial rfl (.cons nofun rfl
    (.cons trivial rfl (.cons nofun rfl (.cons trivial rfl (.nil _))))))
  exact ⟨_, _, run, rfl, (landings_current run).2 true {} _ rfl (List.cons_ne_nil _ _)⟩

/-- While the copy runs, the surface goes to the flat buffer and back, with a new
texture each time; the client writes the square in between. The copy of its old
content lands. -/
theorem stale_landing : ∃ finish : State Bool Bool,
      Runs (step twoSizes) (fun _ _ => True) { content := fun _ _ => false }
        (copying ++ [.copyBand 4096, .commit false [], .importSurface {},
          .write true fun _ => true, .commit true [], .importSurface {}, .land true {}]) finish ∧
      finish.landings.map (fun landing => (landing.started, landing.committed,
        landing.staged (0, 0), landing.content (0, 0))) = [(2, 4, false, true)] := by
  refine ⟨_, runs_of_runUnder rfl, ?_⟩
  decide

end Synoik.Shm
