import Mathlib
import PayloadModels.Proofs.Json.ReadingBack
import PayloadModels.Records.Rating

/-!
# Ratings there and back

Every rating is read back from its text, with its count (`Rating.parse_text_toJson`). What becomes
of its average depends on the numeral that the average is written as. The numeral names the
average, so a reader that rounds once would find it again. The reader of texts rounds twice when
the numeral has more than 53 bits or scales it by a greater power of ten than the twenty-second,
and it may then find a neighbour. An average that is not finite has no numeral and becomes zero.
-/

namespace PayloadModels.Rating

open Json

variable {rating : Rating}

/-! ## Counts -/

/-- An integer of 64 bits is in the bounds already. -/
theorem clamp_toInt (n : Int64) : clamp n.toInt = n := by
  obtain ⟨hleast, hgreatest⟩ := isInt64_iff.1 (isInt64_toInt n)
  rw [clamp, min_eq_right hgreatest, max_eq_right hleast, Int64.ofInt_toInt]

/-! ## Averages -/

/-- The rating that is read back has the count, and the average that is read back. -/
theorem parse_text_toJson_eq {average : Json}
    (h : ReadsBack (.num (.float rating.average)) average) :
    parse rating.toJson.text = .ok ⟨rating.count, averageOf average⟩ := by
  have hwrites : WritesObject rating.toJson.text
      [("count", .num (.int rating.count.toInt)), ("average", average)] := by
    have hcount : ∀ c ∈ "count".toList, IsPlain c := List.all_iff_forall_prop.1 rfl
    have haverage : ∀ c ∈ "average".toList, IsPlain c := List.all_iff_forall_prop.1 rfl
    exact writesObject_text (List.cons_ne_nil _ _)
      (.cons ⟨hcount, rfl, readsBack_int (isInt64_toInt rating.count)⟩
        (.cons ⟨haverage, rfl, h⟩ .nil))
  have hmembers : parseMembers rating.toJson.text
      = .ok [("count", .num (.int rating.count.toInt)), ("average", average)] :=
    parseMembers_eq_ok_iff.2 ⟨_, hwrites, rfl⟩
  rw [parse, hmembers]
  show Except.ok (Rating.mk (clamp rating.count.toInt) (averageOf average)) = _
  rw [clamp_toInt]

/-- A rating whose average is not finite is read back with the average zero. -/
theorem parse_text_toJson_of_not_finite (h : rating.average.isFinite = false) :
    parse rating.toJson.text = .ok ⟨rating.count, .zero⟩ :=
  parse_text_toJson_eq (readsBack_not_finite h)

/-- A finite average is read back as its numeral scaled. -/
theorem exists_parse_text_toJson (rating : Rating) (h : rating.average.isFinite) : ∃ scaled,
    scaleByTen? (.ofNat (floatNumeral rating.average).significand)
        (floatNumeral rating.average).power = some scaled ∧
      parse rating.toJson.text
        = .ok ⟨rating.count, if rating.average.isNegative then scaled.neg else scaled⟩ := by
  obtain ⟨scaled, hscaled, hback⟩ := exists_readsBack_float h
  exact ⟨scaled, hscaled, parse_text_toJson_eq hback⟩

/-! ## There and back -/

/-- Every rating is read back from its text, with its count. An average that is not finite becomes
zero. A finite one becomes the numeral that it is written as, scaled by the reader of texts: the
numeral lies in the interval of the average, and it is read back as the average when it has at most
53 bits and its power of ten is at most the twenty-second. -/
theorem parse_text_toJson (rating : Rating) : ∃ back, parse rating.toJson.text = .ok back ∧
    back.count = rating.count ∧
    (rating.average.isFinite = false → back.average = .zero) ∧
    (rating.average.isFinite →
      (floatText rating.average).toList = (floatNumeral rating.average).signedText ∧
      (∃ scaled, scaleByTen? (.ofNat (floatNumeral rating.average).significand)
          (floatNumeral rating.average).power = some scaled ∧
        back.average = if rating.average.isNegative then scaled.neg else scaled) ∧
      (rating.average.isZero = false → rating.average.Names
        ((floatNumeral rating.average).significand * 10 ^ (floatNumeral rating.average).power)) ∧
      ((floatNumeral rating.average).significand < 2 ^ 53 →
        (floatNumeral rating.average).power.natAbs ≤ 22 → back.average = rating.average)) := by
  cases hfinite : rating.average.isFinite with
  | false =>
    refine ⟨_, parse_text_toJson_of_not_finite hfinite, rfl, fun _ => rfl, nofun⟩
  | true =>
    obtain ⟨scaled, hscaled, hparse⟩ := exists_parse_text_toJson rating hfinite
    refine ⟨_, hparse, rfl, nofun, fun _ => ⟨toList_floatText rating.average,
      ⟨scaled, hscaled, rfl⟩, fun hzero => ?_, ?_⟩⟩
    · exact (names_floatNumeral hzero).2
    · exact fun hlt hpower => eq_of_scaleByTen?_floatNumeral hfinite hlt hpower hscaled

/-- A rating of 42 votes with the average 4.25. -/
theorem parse_text_toJson_quarter :
    let rating : Rating := ⟨42, ⟨0x4011000000000000⟩⟩
    rating.average.isFinite ∧ (floatNumeral rating.average).significand < 2 ^ 53 ∧
      (floatNumeral rating.average).power.natAbs ≤ 22 ∧
      parse rating.toJson.text = .ok rating := by
  intro rating
  have hfinite : rating.average.isFinite := by decide
  have hlt : (floatNumeral rating.average).significand < 2 ^ 53 := by decide
  have hpower : (floatNumeral rating.average).power.natAbs ≤ 22 := by decide
  obtain ⟨⟨count, average⟩, hparse, rfl, -, hback⟩ := parse_text_toJson rating
  obtain rfl : average = rating.average := (hback hfinite).2.2.2 hlt hpower
  exact ⟨hfinite, hlt, hpower, hparse⟩

/-- The numeral of 8000000000000004 has 57 bits, and is rounded before it is divided by ten. -/
theorem scaleByTen?_80000000000000040 :
    scaleByTen? (.ofNat 80000000000000040) (-1) = some ⟨0x433c6bf526340003⟩ := by
  have hneg : (-1 : Int) < 0 := by decide
  have hzero : (Binary64.ofNat 80000000000000040).isZero = false := by decide
  rw [scaleByTen?, hzero, if_neg Bool.false_ne_true, if_pos hneg, divideByTens, hzero,
    if_neg Bool.false_ne_true, if_pos (by decide)]
  decide

/-- The average 8000000000000004 is written as 8000000000000004.0, which is read back as its
neighbour below, and an infinite average, which a text may give, is read back as zero. -/
theorem not_parse_text_toJson :
    (¬ ∃ back,
      parse (ofMembers [("average", .num (.int 8000000000000004))]).toJson.text = .ok back ∧
        back.count = (ofMembers [("average", .num (.int 8000000000000004))]).count ∧
        back.average = (ofMembers [("average", .num (.int 8000000000000004))]).average) ∧
    ¬ ∃ back, parse (ofMembers [("average", .str "inf")]).toJson.text = .ok back ∧
      back.count = (ofMembers [("average", .str "inf")]).count ∧
      back.average = (ofMembers [("average", .str "inf")]).average := by
  constructor
  · have haverage : averageOf (.num (.int 8000000000000004)) = ⟨0x433c6bf526340004⟩ := by
      decide
    rintro ⟨back, hparse, -, hback⟩
    have hrating : ofMembers [("average", .num (.int 8000000000000004))]
        = ⟨0, ⟨0x433c6bf526340004⟩⟩ := congrArg (Rating.mk 0) haverage
    rw [hrating] at hparse hback
    have hsignificand : (floatNumeral ⟨0x433c6bf526340004⟩).significand = 80000000000000040 := by
      decide
    have hpower : (floatNumeral ⟨0x433c6bf526340004⟩).power = -1 := by decide
    obtain ⟨scaled, hscaled, hparse'⟩ :=
      exists_parse_text_toJson ⟨0, ⟨0x433c6bf526340004⟩⟩ (by decide)
    rw [hsignificand, hpower, scaleByTen?_80000000000000040] at hscaled
    obtain rfl := Option.some.inj hscaled
    rw [hparse'] at hparse
    obtain rfl := Except.ok.inj hparse
    exact absurd hback (by decide)
  · have haverage : averageOf (.str "inf") = .infinite false := by decide
    rintro ⟨back, hparse, -, hback⟩
    have hrating : ofMembers [("average", .str "inf")] = ⟨0, .infinite false⟩ :=
      congrArg (Rating.mk 0) haverage
    rw [hrating] at hparse hback
    rw [parse_text_toJson_of_not_finite (by decide)] at hparse
    obtain rfl := Except.ok.inj hparse
    exact absurd hback (by decide)

end PayloadModels.Rating
