/-! The timer that wakes whoever waits. Time is counted in nanoseconds since it was started. It goes
by ticks, and what is due between two ticks comes with the later one. A clock that moves for the
timer alone moves by whole ticks, so it keeps its distance from the tick before. -/
namespace RoadsideSnmp.Timer

def tick : Nat := 1000000

/-- The first tick that is not before a time. -/
def rings (time : Nat) : Nat := time + (tick - time % tick) % tick

/-- What the clock shows when the timer has rung for a time. -/
def leap (now time : Nat) : Nat := now + (rings time - (now - now % tick))

/-- How long one waits who waits for a span. -/
def wait (now span : Nat) : Nat := rings (now % tick + span)

theorem le_rings (time : Nat) : time ≤ rings time := by
  unfold rings tick
  omega

theorem rings_of_dvd {time : Nat} (whole : tick ∣ time) : rings time = time := by
  unfold rings
  unfold tick at whole ⊢
  omega

theorem dvd_rings (time : Nat) : tick ∣ rings time := by
  unfold rings tick
  omega

theorem rings_le {time limit : Nat} (early : time ≤ limit) (whole : tick ∣ limit) :
    rings time ≤ limit := by
  unfold rings
  unfold tick at whole ⊢
  omega

theorem le_leap (now time : Nat) : now ≤ leap now time := Nat.le_add_right _ _

theorem rings_le_leap (now time : Nat) : rings time ≤ leap now time := by
  unfold leap tick
  omega

theorem leap_mod (now time : Nat) : leap now time % tick = now % tick := by
  unfold leap rings tick
  omega

theorem leap_le {now time limit : Nat} (before : now ≤ limit + now % tick) (early : time ≤ limit)
    (whole : tick ∣ limit) : leap now time ≤ limit + now % tick := by
  have rung := rings_le early whole
  unfold leap
  omega

theorem eq_of_due {now limit : Nat} (due : limit ≤ now) (early : now ≤ limit + now % tick)
    (whole : tick ∣ limit) : now = limit + now % tick := by
  unfold tick at *
  omega

theorem le_wait (now span : Nat) : span ≤ wait now span :=
  Nat.le_trans (Nat.le_add_left _ _) (le_rings _)

theorem wait_lt (now span : Nat) : wait now span < span + 2 * tick := by
  unfold wait rings tick
  omega

theorem wait_of_dvd {now span : Nat} (onTick : tick ∣ now) (whole : tick ∣ span) :
    wait now span = span := by
  rw [wait, Nat.mod_eq_zero_of_dvd onTick, Nat.zero_add, rings_of_dvd whole]

theorem rings_add (now span : Nat) : rings (now + span) + now % tick = now + wait now span := by
  unfold wait rings tick
  omega

end RoadsideSnmp.Timer
