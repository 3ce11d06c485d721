/-
The lifetime of `data_size` in `concurrent_drogon_client`. The response callback captures the
by-value parameter of `sendRequests` by reference, and `sendRequests` returns as soon as its loop
has sent everything, without waiting for any response. A success update that runs after that reads
a popped frame. The reads are sound in the runs in which each call returns only when none of its
requests still owes a success update; among the runs that leave no callback outstanding these are
the only ones.
-/
import HttpSurvey.Drogon.ConcurrentClient

namespace HttpSurvey.Drogon

open HttpSurvey.Lib

variable {T R : Nat} {reply : Fin T × Fin R → Reply}

/-- A callback that saw a 200 and executes `total_bytes_sent += data_size` reads the live frame of
the call that captured `data_size`, with the payload size `main` passed. -/
def ReadsLiveFrame (reply : Fin T × Fin R → Reply) (s : Client T R) : Act T R → Prop
  | .update k _ => (reply k).saw200 = true → ∃ f, s.worker k.1 = .running f ∧ f.dataSize = dataSize
  | _ => True

/-- A call of `sendRequests` returns only when none of its requests is outstanding with a 200 yet
to come. -/
def ReturnsLate (reply : Fin T × Fin R → Reply) (s : Client T R) : Act T R → Prop
  | .ret t => ∀ i, (reply (t, i)).saw200 = true → s.callback (t, i) ≠ .outstanding
  | _ => True

instance (s : Client T R) : ∀ a, Decidable (ReturnsLate reply s a)
  | .ret t => inferInstanceAs (Decidable (∀ i, (reply (t, i)).saw200 = true → s.callback (t, i) ≠ .outstanding))
  | .call _ | .send _ | .update _ _ | .count _ | .compare _ | .quit _ => isTrue trivial

/-- The number of success updates performed. -/
def successUpdates (reply : Fin T × Fin R → Reply) (s : Client T R) : Nat :=
  count (fun k c => c.isUpdated && (reply k).saw200) s.callback

/-- The lifetime invariant: a frame holds the payload size, a callback that will see a 200 has a
live frame, and the bytes counted are those of the success updates. -/
structure FrameInv (reply : Fin T × Fin R → Reply) (s : Client T R) : Prop where
  sent : Sent s
  frame : ∀ t f, s.worker t = .running f → f.dataSize = dataSize
  live : ∀ k, (reply k).saw200 = true → s.callback k = .outstanding → ∃ f, s.worker k.1 = .running f
  bytes : s.totalBytesSent = dataSize * successUpdates reply s

theorem frameInv_start : FrameInv reply (start : Client T R) := by
  refine ⟨sent_start, fun t f h => ?_, fun k _ h => ?_, ?_⟩
  · cases h
  · cases h
  · have : successUpdates reply (start : Client T R) = 0 := tally_eq_zero fun _ => rfl
    rw [this]
    rfl

theorem FrameInv.reads {s : Client T R} (hI : FrameInv reply s) {a : Act T R} {s' : Client T R}
    (h : next reply s a = some s') : ReadsLiveFrame reply s a := by
  cases a with
  | update k g =>
    intro h200
    obtain ⟨f, hf⟩ := hI.live k h200 (next_update h).1
    exact ⟨f, hf, hI.frame _ f hf⟩
  | _ => trivial

theorem successUpdates_update {s : Client T R} {k : Fin T × Fin R} {c : Callback} {d : Nat}
    (h : (c.isUpdated && (reply k).saw200).toNat = ((s.callback k).isUpdated && (reply k).saw200).toNat + d) :
    count (fun k c => c.isUpdated && (reply k).saw200) (Function.update s.callback k c) =
      successUpdates reply s + d :=
  tally_update_add (w := fun k (c : Callback) => (c.isUpdated && (reply k).saw200).toNat) h

/-- The three callback steps after the update keep the invariant. -/
theorem frameInv_callback {s : Client T R} (hI : FrameInv reply s) {k : Fin T × Fin R} {c : Callback}
    (hk : (s.callback k).isUpdated = true) (hc : c.isUpdated = true) (n q : Nat)
    (hs : Sent { s with callback := Function.update s.callback k c }) :
    FrameInv reply { s with
      callback := Function.update s.callback k c
      completedRequests := n
      quits := q } := by
  refine ⟨hs, hI.frame, fun k' h200 hk' => ?_, ?_⟩
  · have hne : k' ≠ k := by
      rintro rfl
      simp only [Function.update_self] at hk'
      rw [hk'] at hc
      cases hc
    simp only [Function.update_of_ne hne] at hk'
    exact hI.live k' h200 hk'
  · show s.totalBytesSent = dataSize * count _ (Function.update _ _ _)
    rw [successUpdates_update (d := 0) (by rw [hk, hc]; rfl)]
    exact hI.bytes

/-- A step of a worker to `w` with the payload size in its frame, if any, keeps the frames sound
when the callbacks of that worker that will see a 200 keep a live frame. -/
theorem frames_worker {s : Client T R} (hI : FrameInv reply s) {t : Fin T} {w : Worker}
    (hw : ∀ f, w = .running f → f.dataSize = dataSize)
    (hlive : ∀ i, (reply (t, i)).saw200 = true → s.callback (t, i) = .outstanding → ∃ f, w = .running f) :
    (∀ t' f, Function.update s.worker t w t' = .running f → f.dataSize = dataSize) ∧
    ∀ k, (reply k).saw200 = true → s.callback k = .outstanding →
      ∃ f, Function.update s.worker t w k.1 = .running f := by
  refine ⟨fun t' f hf => ?_, fun ⟨t', i⟩ h200 hk => ?_⟩
  · by_cases ht : t' = t
    · subst ht
      rw [Function.update_self] at hf
      exact hw f hf
    · rw [Function.update_of_ne ht] at hf
      exact hI.frame t' f hf
  · by_cases ht : t' = t
    · subst ht
      obtain ⟨f, hf⟩ := hlive i h200 hk
      exact ⟨f, by simp [hf]⟩
    · obtain ⟨f, hf⟩ := hI.live (t', i) h200 hk
      exact ⟨f, by simpa [ht] using hf⟩

theorem frameInv_send {s s' : Client T R} {t : Fin T} (hI : FrameInv reply s)
    (h : next reply s (.send t) = some s') : FrameInv reply s' := by
  have hsent := sent_next hI.sent h
  obtain ⟨f, hi, hw, rfl⟩ := next_send h
  obtain ⟨hframe, hlive⟩ := frames_worker hI (t := t) (w := .running { f with i := f.i + 1 })
    (fun f' hf => by cases hf; exact hI.frame t f hw) fun i _ _ => ⟨_, rfl⟩
  refine ⟨hsent, hframe, fun k h200 hk => ?_, ?_⟩
  · by_cases hne : k = (t, ⟨f.i, hi⟩)
    · subst hne
      exact ⟨_, Function.update_self ..⟩
    · simp only [Function.update_of_ne hne] at hk
      exact hlive k h200 hk
  · show s.totalBytesSent = dataSize * count _ (Function.update _ _ _)
    rw [successUpdates_update (d := 0) (by rw [hI.sent.unsent hw hi]; rfl)]
    exact hI.bytes

theorem frameInv_update {s s' : Client T R} {k : Fin T × Fin R} {g : Nat} (hI : FrameInv reply s)
    (h : next reply s (.update k g) = some s') : FrameInv reply s' := by
  have hsent := sent_next hI.sent h
  have hreads := hI.reads h
  obtain ⟨hc, rfl⟩ := next_update h
  refine ⟨hsent, ?_, fun k' h200 hk' => ?_, ?_⟩
  · rw [updateCounters_worker]
    exact hI.frame
  · have hne : k' ≠ k := by
      rintro rfl
      simp at hk'
    simp only [Function.update_of_ne hne] at hk'
    rw [updateCounters_worker]
    exact hI.live k' h200 hk'
  · show (updateCounters reply s k g).totalBytesSent = dataSize * count _ (Function.update _ _ _)
    rw [successUpdates_update (d := (reply k).saw200.toNat) (by rw [hc]; simp [Callback.isUpdated])]
    unfold updateCounters
    rcases h200 : (reply k).saw200 with _ | _
    · exact hI.bytes
    · -- a 200: the frame that is read is live and holds the payload size
      obtain ⟨f, hf, hsize⟩ := hreads h200
      simp only [if_true, Bool.toNat_true, readDataSize, hf, hsize]
      rw [hI.bytes, Nat.mul_succ]

theorem frameInv_next (s : Client T R) (a : Act T R) (s' : Client T R) (hG : ReturnsLate reply s a)
    (hI : FrameInv reply s) (h : next reply s a = some s') : FrameInv reply s' := by
  have hsent := sent_next hI.sent h
  cases a with
  | call t =>
    obtain ⟨-, rfl⟩ := next_call h
    obtain ⟨hframe, hlive⟩ := frames_worker hI (t := t) (w := .running ⟨0, dataSize⟩)
      (fun f hf => by cases hf; rfl) fun i _ _ => ⟨_, rfl⟩
    exact ⟨hsent, hframe, hlive, hI.bytes⟩
  | send t => exact frameInv_send hI h
  | ret t =>
    obtain ⟨f, -, -, rfl⟩ := next_ret h
    obtain ⟨hframe, hlive⟩ := frames_worker hI (t := t) (w := .returned)
      (fun f hf => by cases hf) fun i h200 ho => absurd ho (hG i h200)
    exact ⟨hsent, hframe, hlive, hI.bytes⟩
  | update k g => exact frameInv_update hI h
  | count k =>
    obtain ⟨hc, rfl⟩ := next_count h
    exact frameInv_callback hI (by rw [hc]; rfl) rfl _ _ hsent
  | compare k =>
    obtain ⟨hc, rfl⟩ := next_compare h
    exact frameInv_callback hI (by rw [hc]; rfl) (by split <;> rfl) _ _ hsent
  | quit k =>
    obtain ⟨hc, rfl⟩ := next_quit h
    exact frameInv_callback hI (by rw [hc]; rfl) rfl _ _ hsent

/-! ## A frame that is gone stays gone -/

/-- After its call has returned, an outstanding callback that will see a 200 stays outstanding in
every run whose success updates all read a live frame. -/
theorem stays_outstanding {k : Fin T × Fin R} (h200 : (reply k).saw200 = true) (s : Client T R) (a : Act T R)
    (s' : Client T R) (hG : ReadsLiveFrame reply s a)
    (hP : s.worker k.1 = .returned ∧ s.callback k = .outstanding) (h : next reply s a = some s') :
    s'.worker k.1 = .returned ∧ s'.callback k = .outstanding := by
  obtain ⟨hw, hc⟩ := hP
  have hkeep : ∀ (k' : Fin T × Fin R) (c c' : Callback), s.callback k' = c → c ≠ .outstanding →
      Function.update s.callback k' c' k = .outstanding := by
    rintro k' c c' rfl hne
    rw [Function.update_of_ne (by rintro rfl; exact hne hc)]
    exact hc
  have hstill : ∀ (t : Fin T) (w w' : Worker), s.worker t = w → w ≠ .returned →
      Function.update s.worker t w' k.1 = .returned := by
    rintro t w w' rfl hne
    rw [Function.update_of_ne (by rintro rfl; exact hne hw)]
    exact hw
  cases a with
  | call t =>
    obtain ⟨hw', rfl⟩ := next_call h
    exact ⟨hstill t _ _ hw' (by simp), hc⟩
  | send t =>
    obtain ⟨f, hi, hw', rfl⟩ := next_send h
    refine ⟨hstill t _ _ hw' (by simp), ?_⟩
    have hne : k ≠ (t, ⟨f.i, hi⟩) := by
      rintro rfl
      rw [hw] at hw'
      cases hw'
    exact (Function.update_of_ne hne ..).trans hc
  | ret t =>
    obtain ⟨f, hw', -, rfl⟩ := next_ret h
    exact ⟨hstill t _ _ hw' (by simp), hc⟩
  | update k' g =>
    obtain ⟨-, rfl⟩ := next_update h
    rw [updateCounters_worker]
    refine ⟨hw, ?_⟩
    -- the callback itself cannot update: it would read the popped frame
    have hne : k ≠ k' := by
      rintro rfl
      obtain ⟨f, hf, -⟩ := hG h200
      rw [hw] at hf
      cases hf
    exact (Function.update_of_ne hne ..).trans hc
  | count k' =>
    obtain ⟨hc', rfl⟩ := next_count h
    exact ⟨hw, hkeep k' _ _ hc' (by simp)⟩
  | compare k' =>
    obtain ⟨hc', rfl⟩ := next_compare h
    exact ⟨hw, hkeep k' _ _ hc' (by simp)⟩
  | quit k' =>
    obtain ⟨hc', rfl⟩ := next_quit h
    exact ⟨hw, hkeep k' _ _ hc' (by simp)⟩

/-- A run whose success updates all read live frames and that leaves no callback outstanding has
each call return late enough. -/
theorem returnsLate_of_reads : ∀ (as : List (Act T R)) (s t : Client T R), (client reply).exec s as = some t →
    (∀ k, t.callback k ≠ .outstanding) → (client reply).Along (ReadsLiveFrame reply) s as →
    (client reply).Along (ReturnsLate reply) s as
  | [], _, _, _, _, _ => trivial
  | a :: as, s, t, h, hend, hreads => by
    obtain ⟨s', hn, h⟩ := Machine.exec_cons.1 h
    have hrest := hreads.2 s' hn
    refine ⟨?_, fun s'' hn' => ?_⟩
    · cases a with
      | ret w =>
        intro i h200 hout
        have hstep : next reply s (.ret w) = some s' := hn
        obtain ⟨f, -, -, rfl⟩ := next_ret hstep
        -- returning too early leaves the callback outstanding to the end of the run
        have hgone := Machine.alongInv _ (stays_outstanding (k := (w, i)) h200) as _ t hrest
          ⟨Function.update_self .., hout⟩ h
        exact hend (w, i) hgone.2
      | _ => trivial
    · rw [hn] at hn'
      cases hn'
      exact returnsLate_of_reads as s' t h hend hrest

/-- In every run in which each call of `sendRequests` returns only when none of its requests still
owes a success update, every success update reads a live frame and the bytes counted are the
payload size times the success updates; and a run that leaves no callback outstanding has only
such reads exactly when it is one of these. -/
theorem reads_live_frame (reply : Fin T × Fin R → Reply) (as : List (Act T R)) (s : Client T R)
    (h : (client reply).run as = some s) :
    ((client reply).Along (ReturnsLate reply) start as →
      (client reply).Along (ReadsLiveFrame reply) start as ∧
      s.totalBytesSent = dataSize * successUpdates reply s) ∧
    ((∀ k, s.callback k ≠ .outstanding) →
      ((client reply).Along (ReadsLiveFrame reply) start as ↔
        (client reply).Along (ReturnsLate reply) start as)) := by
  have hsound : (client reply).Along (ReturnsLate reply) start as →
      (client reply).Along (ReadsLiveFrame reply) start as := fun hlate =>
    Machine.along_of_inv (FrameInv reply) frameInv_next (fun _ _ _ _ hI hn => hI.reads hn) as start s h hlate
      frameInv_start
  refine ⟨fun hlate => ⟨hsound hlate, ?_⟩, fun hend => ⟨returnsLate_of_reads as start s h hend, hsound⟩⟩
  exact (Machine.alongInv (FrameInv reply) frameInv_next as start s hlate frameInv_start h).bytes

/-- The worker's loop ends before the response arrives: the success update reads the popped frame,
and the total is whatever was left there. -/
theorem dead_frame_read :
    ((client fun _ => ⟨true, some 200⟩).run [.call 0, .send 0, .ret 0, .update ((0 : Fin 1), (0 : Fin 1)) 7]).map
      (fun s => (s.worker 0, s.totalBytesSent)) = some (.returned, 7) ∧
    ¬ (client fun _ => ⟨true, some 200⟩).Along (ReadsLiveFrame fun _ => ⟨true, some 200⟩) start
      [.call 0, .send 0, .ret 0, .update ((0 : Fin 1), (0 : Fin 1)) 7] := by
  refine ⟨by decide, fun h => ?_⟩
  obtain ⟨f, hf, -⟩ := (((h.2 _ rfl).2 _ rfl).2 _ rfl).1 rfl
  cases hf

/-- One thread whose call returns after the 200 of its one request. -/
theorem reads_live_frame_single : ∃ s : Client 1 1,
    (client fun _ => ⟨true, some 200⟩).run [.call 0, .send 0, .update (0, 0) 0, .ret 0] = some s ∧
    s.totalBytesSent = dataSize * successUpdates (fun _ => ⟨true, some 200⟩) s := by
  obtain ⟨s, hs⟩ := Option.isSome_iff_exists.1
    (by decide : ((client fun _ => ⟨true, some 200⟩).run
      [.call (0 : Fin 1), .send 0, .update ((0 : Fin 1), (0 : Fin 1)) 0, .ret 0]).isSome)
  exact ⟨s, hs, ((reads_live_frame _ _ s hs).1 (by decide)).2⟩

end HttpSurvey.Drogon
