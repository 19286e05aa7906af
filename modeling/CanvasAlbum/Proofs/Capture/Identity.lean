import CanvasAlbum.Capture.Snapshot
import CanvasAlbum.Proofs.Text.Unambiguous

/-!
# Ids tell instants and suffixes apart

Nothing stands between the instant and the suffix of an id, and a suffix may be any text. The
instant ends by itself all the same: a year ends at the first dash that is not its sign, and what
comes behind it has fixed widths, since even a leap second is shown with two digits.

* `yearText_append_inj`: a year with a dash behind it ends by itself.
* `shownSecond_eq`, `microsecond_eq`: what an id shows of a second.
* `sortableText_append_inj`: an instant ends by itself, as far as it is shown.
* `ids_tell_instants_and_suffixes`: the statement for ids.
-/

namespace CanvasAlbum
open Text

namespace Instant

/-! ## Years -/

def yearSign (year : Int) : String :=
  if year < 0 then "-" else if year ≤ 9999 then "" else "+"

theorem yearText_eq (year : Int) :
    yearText year = yearSign year ++ Decimal.padded 4 year.natAbs := by
  unfold yearText yearSign
  split
  · rfl
  · split
    · rw [String.empty_append]
    · rfl

theorem yearSign_eq_minus_iff (year : Int) : yearSign year = "-" ↔ year < 0 := by
  unfold yearSign
  split
  · simp [*]
  · split <;> simp [*]

theorem not_isDigit_of_mem_yearSign {year : Int} {c : Char}
    (member : c ∈ (yearSign year).toList) : c.isDigit = false := by
  unfold yearSign at member
  split at member
  · rw [List.mem_singleton.mp member]
    rfl
  · split at member
    · contradiction
    · rw [List.mem_singleton.mp member]
      rfl

/-- The sign of a year ends at the first digit. -/
theorem yearSign_toList (year : Int) (z : String) :
    (yearText year ++ z).toList.takeWhile (!·.isDigit) = (yearSign year).toList := by
  obtain ⟨first, others, digits⟩ :=
    List.exists_cons_of_ne_nil (Decimal.padded_toList_ne_nil 4 year.natAbs)
  have digit : first.isDigit = true := by
    apply Decimal.isDigit_of_mem_padded
    rw [digits]
    exact List.mem_cons_self
  rw [yearText_eq, String.append_assoc, String.toList_append]
  apply takeWhile_append_of_stop
  · intro c member
    rw [not_isDigit_of_mem_yearSign member]
    rfl
  · rw [String.toList_append, digits]
    rintro c ⟨⟩
    rw [digit]
    rfl

theorem yearText_append_inj {i j : Int} {x y : String} :
    yearText i ++ ("-" ++ x) = yearText j ++ ("-" ++ y) ↔ i = j ∧ x = y := by
  constructor
  · intro same
    have sign : yearSign i = yearSign j := by
      rw [← String.toList_inj, ← yearSign_toList i, same, yearSign_toList]
    have negative : i < 0 ↔ j < 0 := by
      rw [← yearSign_eq_minus_iff, sign, yearSign_eq_minus_iff]
    have digits {n : Nat} : '-' ∉ (Decimal.padded 4 n).toList := Decimal.not_mem_padded rfl
    rw [yearText_eq, yearText_eq, String.append_assoc, String.append_assoc, sign,
      String.append_right_inj, append_mark_inj digits digits rfl] at same
    have magnitude := Decimal.padded_injective 4 same.1
    exact ⟨by omega, same.2⟩
  · rintro ⟨rfl, rfl⟩
    rfl

/-! ## Fields of fixed width -/

theorem daysInMonth_le (year : Int) (month : Nat) : daysInMonth year month ≤ 31 := by
  fun_cases daysInMonth year month <;> omega

theorem nanosecond_lt_of_second_ne {t : Instant} (other : t.second ≠ 59) :
    t.nanosecond < nanosecondsPerSecond := by
  have bound := t.nanosecond_lt
  rwa [nanosecondLimit, if_neg other] at bound

theorem shownSecond_eq (t : Instant) :
    t.shownSecond = if t.nanosecond < nanosecondsPerSecond then t.second else 60 := by
  unfold shownSecond
  split
  · rename_i whole
    rw [Nat.div_eq_of_lt whole, Nat.add_zero]
  · rename_i leap
    -- Only a 59th second goes on, and it does so for less than another second.
    have last : t.second = 59 :=
      Decidable.not_not.mp fun other => leap (nanosecond_lt_of_second_ne other)
    have bound := t.nanosecond_lt
    rw [nanosecondLimit, if_pos last] at bound
    have one : t.nanosecond / nanosecondsPerSecond = 1 :=
      Nat.div_eq_of_lt_le (by omega) (by omega)
    rw [last, one]

theorem shownSecond_le (t : Instant) : t.shownSecond ≤ 60 := by
  rw [shownSecond_eq]
  split
  · exact Nat.le_of_lt t.second_lt
  · exact Nat.le_refl 60

theorem microsecond_lt (t : Instant) : t.microsecond < 10 ^ 6 := by
  have rest : t.nanosecond % nanosecondsPerSecond < 1000 * 10 ^ 6 := Nat.mod_lt _ (by decide)
  exact Nat.div_lt_of_lt_mul rest

theorem microsecond_cuts (t : Instant) :
    1000 * t.microsecond ≤ t.nanosecond % nanosecondsPerSecond ∧
      t.nanosecond % nanosecondsPerSecond < 1000 * (t.microsecond + 1) :=
  ⟨Nat.mul_div_le _ 1000, Nat.lt_mul_div_succ _ (by decide)⟩

/-! ## Instants -/

theorem sortableText_append_inj {t u : Instant} {x y : String} :
    t.sortableText ++ x = u.sortableText ++ y ↔
      t.year = u.year ∧ t.month = u.month ∧ t.day = u.day ∧ t.hour = u.hour ∧
        t.minute = u.minute ∧ t.shownSecond = u.shownSecond ∧ t.microsecond = u.microsecond ∧
        x = y := by
  have two : SelfDelimitingOn (· < 10 ^ 2) (Decimal.padded 2) :=
    Decimal.padded_selfDelimiting (by decide)
  have six : SelfDelimitingOn (· < 10 ^ 6) (Decimal.padded 6) :=
    Decimal.padded_selfDelimiting (by decide)
  have month (t : Instant) : t.month < 10 ^ 2 := Nat.lt_of_le_of_lt t.month_valid.2 (by decide)
  have day (t : Instant) : t.day < 10 ^ 2 :=
    Nat.lt_of_le_of_lt (Nat.le_trans t.day_valid.2 (daysInMonth_le _ _)) (by decide)
  have hour (t : Instant) : t.hour < 10 ^ 2 := Nat.lt_trans t.hour_lt (by decide)
  have minute (t : Instant) : t.minute < 10 ^ 2 := Nat.lt_trans t.minute_lt (by decide)
  have second (t : Instant) : t.shownSecond < 10 ^ 2 :=
    Nat.lt_of_le_of_lt t.shownSecond_le (by decide)
  simp only [sortableText, clockText, String.append_assoc]
  rw [yearText_append_inj, two.append_inj (month t) (month u), String.append_right_inj,
    two.append_inj (day t) (day u), String.append_right_inj,
    two.append_inj (hour t) (hour u), String.append_right_inj,
    two.append_inj (minute t) (minute u), String.append_right_inj,
    two.append_inj (second t) (second u), String.append_right_inj,
    six.append_inj t.microsecond_lt u.microsecond_lt]

end Instant

/-! ## Ids -/

namespace Stamp

theorem ids_tell_instants_and_suffixes :
    (∀ (t u : Instant) (s r : String),
      (ofInstant t s).id = (ofInstant u r).id ↔
        s = r ∧ t.year = u.year ∧ t.month = u.month ∧ t.day = u.day ∧ t.hour = u.hour ∧
          t.minute = u.minute ∧ t.shownSecond = u.shownSecond ∧
          t.microsecond = u.microsecond) ∧
    ∀ t : Instant,
      t.shownSecond = (if t.nanosecond < 1000000000 then t.second else 60) ∧
        1000 * t.microsecond ≤ t.nanosecond % 1000000000 ∧
        t.nanosecond % 1000000000 < 1000 * (t.microsecond + 1) := by
  refine ⟨?_, fun t => ⟨t.shownSecond_eq, t.microsecond_cuts⟩⟩
  intro t u s r
  rw [ofInstant, ofInstant, SnapshotId.mk.injEq, Instant.sortableText_append_inj]
  constructor
  · rintro ⟨year, month, day, hour, minute, second, microsecond, suffix⟩
    exact ⟨suffix, year, month, day, hour, minute, second, microsecond⟩
  · rintro ⟨suffix, year, month, day, hour, minute, second, microsecond⟩
    exact ⟨year, month, day, hour, minute, second, microsecond, suffix⟩

example :
    (Instant.ofParts? 2016 12 31 23 59 59 1999999999).map (fun t => (ofInstant t "7").id.text) =
      some "2016-12-31T23:59:60.9999997" := by
  decide +kernel

end Stamp

end CanvasAlbum
