import ConnPool.Proofs.Pool.Disposal
import ConnPool.Proofs.Pool.Eviction

/-!
# Pools that do not evict

Where the idle timeout is zero nothing is ever evicted, and what gets on the idle stack stays
there until somebody takes it. So such a pool has to be careful about what it puts there: it never
has more idle connections than its floor (`ConnPool.Pool.Trim`).

There are two ways onto the stack, and they are judged by different things. A connection that
comes back is judged by the stack as it is then. A connection that is opened to fill the pool up
is judged by the stack together with all that is checked out. One release may go both ways, the
second after the first, and each of them stops at the floor.

The floor is not undercut for the sake of the bound. As long as the stack is lower than that, a
connection that comes back and can be used is kept.
-/

namespace ConnPool

namespace Pool

variable {W C ε : Type} {d : Driver W C ε} {p q : Pool C}

/-- **A pool is trim**: if it does not evict, it has no more idle connections than its floor. -/
def Trim (p : Pool C) : Prop := p.config.evictsIdle = false → p.idle.length ≤ p.config.floor

/-- A pool stays trim if its settings are the same and its idle stack is no higher. -/
theorem Trim.of_le (hp : p.Trim) (hconfig : q.config = p.config)
    (hidle : q.idle.length ≤ p.idle.length) : q.Trim := by
  intro hkeeps
  rw [hconfig] at hkeeps ⊢
  exact Nat.le_trans hidle (hp hkeeps)

theorem trim_fresh (config : Config) : (fresh config : Pool C).Trim := fun _ => Nat.zero_le _

/-- Taking a connection off the stack makes it lower, wherever the connection stands. -/
theorem Trim.unstack (hp : p.Trim) {h : Handle C} (above below : List (Handle C))
    (hidle : p.idle = above ++ h :: below) : (p.unstack h (above ++ below)).Trim := by
  refine hp.of_le rfl ?_
  rw [hidle, List.length_append, List.length_cons]
  exact Nat.le_of_lt (List.length_append.trans_lt (Nat.lt_succ_self _))

/-- Putting a connection on the stack keeps a pool trim if there is room below the floor. -/
theorem trim_stack (hroom : p.config.evictsIdle = false → p.idle.length < p.config.floor)
    (h : Handle C) (now : Instant) : (p.stack h now).Trim := hroom

/-- Who is short of the floor altogether is short of it on the idle stack. -/
theorem Opens.trim {s s' : Pool C × W} (hstep : Opens d s s') (hp : s.1.Trim) : s'.1.Trim := by
  cases hstep with
  | failed _ _ _ => exact hp
  | @added p _ _ _ _ _ _ _ _ hshort _ _ _ =>
    exact trim_stack (p := p.number) (fun _ => Nat.lt_of_le_of_lt (Nat.le_add_right _ _) hshort) _ _

/-- What becomes of a connection that has come back keeps a pool trim: it is put on the stack only
if there is no surplus. -/
theorem Disposed.trim {h : Handle C} {force : Bool} {s s' : Pool C × W}
    (hs : Disposed d h force s s') (hp : s.1.Trim) : s'.1.Trim := by
  cases hs with
  | letGo _ => exact hp
  | rejected _ _ _ => exact hp
  | @shelved p w _ _ _ _ hwanted hcheck hgood _ =>
    have hkept : Keeps d p w h force := keeps_iff.mpr ⟨hwanted, by rw [hcheck, hgood]⟩
    refine trim_stack (fun hkeeps => Nat.lt_of_not_le fun hfull => ?_) _ _
    exact hkept.wanted ⟨hkeeps, hfull⟩

variable [DecidableEq C]

/-- **Every step of a request keeps a pool trim.** -/
theorem Move.trim {r : Request (Handle C)} {s s' : Pool C × W} (hstep : Move d r s s')
    (hp : s.1.Trim) : s'.1.Trim := by
  cases hstep with
  | discard _ hdrop =>
    cases hdrop with
    | mk htop _ _ => exact hp.unstack [] _ htop
  | reuse _ _ htop _ _ => exact hp.unstack [] _ htop
  | fail _ _ _ _ => exact hp
  | lend _ _ _ _ _ _ => exact hp
  | giveBack _ hs => exact hs.trim hp
  | refill hopens => exact hopens.trim hp
  | look _ => exact hp
  | evict _ hidle => exact hp.unstack _ _ hidle
  | shut _ => exact hp
  | close => exact hp

variable {env : W → W → Prop} {config : Config} {w₀ w : W} {hist : List (Moment W C)}

/-- **A pool is trim in every state it reaches.** -/
theorem Reached.trim {s : Pool C × W} (h : Reached d env config w₀ hist s) : s.1.Trim :=
  h.pool_invariant (fun _ => trim_fresh config) (fun _ _ hstep => hstep.trim)
    fun _ _ _ hstep => hstep.trim

/-! ### Main statement -/

/-- **A pool that does not evict never has more idle connections than its floor**, whatever it has
been through; if its floor is zero it has none at all. But it keeps what it needs: while there are
fewer idle connections than that, a connection that comes back to the open pool is put on top of
the stack, if it passes the check and the borrower has not asked for it to be closed. -/
theorem idle_le_floor (hreached : Reached d env config w₀ hist (p, w))
    (hzero : config.idleTimeout.nanos = 0) :
    p.idle.length ≤ config.floor ∧ (config.floor = 0 → p.idle = []) ∧
      ∀ h key k, p.closed = false → EndsCheckout d p w (.release h key false) k →
        p.idle.length < config.floor → (d.recycle h.conn w).1.isReusable = true →
          ∃ q v new, p.release d h key false w = (.ok (), q, v) ∧
            q.idle = new ++ h :: p.idle ∧ (∀ g ∈ new, p.nextId ≤ g.id) ∧
            q.idle.length ≤ config.floor ∧
            q.idleSince? h.id = some (d.now (d.recycle h.conn w).2).1 := by
  have hkeeps : config.evictsIdle = false :=
    Bool.eq_false_iff.mpr fun hevicts => Config.evictsIdle_iff.mp hevicts hzero
  have hbound : ∀ {hist : List (Moment W C)} {s : Pool C × W},
      Reached d env config w₀ hist s → s.1.idle.length ≤ config.floor := by
    intro hist s hs
    obtain hconfig : s.1.config = config := hs.within.config_eq
    exact hconfig ▸ hs.trim (hconfig ▸ hkeeps)
  refine ⟨hbound hreached, fun hfloor => ?_, fun h key k hopen hend hroom hgood => ?_⟩
  · exact List.length_eq_zero_iff.mp (Nat.le_zero.mp (hfloor ▸ hbound hreached))
  · have hconfig : p.config = config := hreached.within.config_eq
    have hkept : Keeps d p w h false :=
      ⟨hopen, rfl, fun hsurplus => Nat.not_le_of_lt (hconfig ▸ hroom) hsurplus.2, hgood⟩
    obtain ⟨hok, hback⟩ := taken_back hreached h key false k hend
    obtain ⟨new, hnew, ⟨_, hidle⟩ | ⟨hnot, _⟩⟩ := hback.idle
    · exact ⟨_, _, new, Prod.ext hok rfl, hidle, hnew,
        hbound (hreached.serve (.release h key false)), hback.stamped hkept⟩
    · exact absurd hkept hnot

/-- While the factory was down, two of three connections that were checked out have been closed.
Now that it is up again, the third comes back to a pool that has no idle connection at all. It is
kept, and one is opened on top of it, but no more than the floor of two allows. A pool without a
floor does not keep the only connection it has lent. -/
theorem idle_le_floor_on_return :
    ∃ hist p w q v hist' p' w', Reached (World.driver 0 .manual) (fun _ _ => True)
        { minConnections := 2, maxConnections := 4, idleTimeout := ⟨0⟩ } {} hist (p, w) ∧
      p.idle = [] ∧ p.held.size = 1 ∧
      EndsCheckout (World.driver 0 .manual) p w (.release ⟨2, 2, Instant.start⟩ none false)
        (.auto 1) ∧
      p.release (World.driver 0 .manual) ⟨2, 2, Instant.start⟩ none false w = (.ok (), q, v) ∧
      q.idleIds = [2, 3] ∧ q.idle.length ≤ 2 ∧ q.idleSince? 2 = some ⟨7⟩ ∧
      Reached (World.driver 0 .manual) (fun _ _ => True)
        { minConnections := 0, maxConnections := 1, idleTimeout := ⟨0⟩ } {} hist' (p', w') ∧
      p'.nextId = 1 ∧ p'.idle = [] := by
  have h : Reached (World.driver 0 .manual) (fun _ _ => True)
      { minConnections := 2, maxConnections := 4, idleTimeout := ⟨0⟩ } {} _ (_, _) :=
    ⟨_, _, rfl, (((((((Run.start.serve (.acquire none)).serve
      (.acquire (some (.named "a")))).serve (.acquire none)).drift
      (w := { backends := [{ attempts := 3, opened := 3, refuseAll := true }]
              conns := [.born 0 1 {}, .born 0 2 {}, .born 0 3 {}] }) trivial).serve
      (.release ⟨1, 1, Instant.start⟩ none true)).serve
      (.release ⟨0, 0, Instant.start⟩ none true)).drift
      (w := { backends := [{ attempts := 4, opened := 3, closed := 2, closeLog := [2, 1] }]
              conns := [{ SimConn.born 0 1 {} with closed := true, closes := 1 },
                { SimConn.born 0 2 {} with closed := true, closes := 1 }, .born 0 3 {}]
              manual := ⟨7⟩ }) trivial)⟩
  have h' : Reached (World.driver 0 .manual) (fun _ _ => True)
      { minConnections := 0, maxConnections := 1, idleTimeout := ⟨0⟩ } {} _ (_, _) :=
    ⟨_, _, rfl, (Run.start.serve .get).serve (.put ⟨0, 0, Instant.start⟩)⟩
  obtain ⟨q, v, new, hrelease, -, -, hbound, hstamp⟩ :=
    (idle_le_floor h rfl).2.2 ⟨2, 2, Instant.start⟩ none (.auto 1) rfl
      (endsCheckout_release_iff.mpr rfl) (by decide) rfl
  refine ⟨_, _, _, q, v, _, _, _, h, rfl, rfl, endsCheckout_release_iff.mpr ?found, hrelease,
    ?idle, hbound, hstamp, h', rfl, (idle_le_floor h' rfl).2.1 rfl⟩
  case found => rfl
  case idle => exact (congrArg (fun s => s.2.1.idleIds) hrelease).symm

end Pool

end ConnPool
