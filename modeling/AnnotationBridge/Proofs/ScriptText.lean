import AnnotationBridge.Proofs.ActionCodec
import AnnotationBridge.Proofs.JsonText
import AnnotationBridge.Proofs.PlainDecimal
import AnnotationBridge.Script

/-!
# Reading encoded scripts

A script that was read from a text and is written again is read as the same script. Only the
double-precision numbers in the values that it carries, such as the data of an action, may come back
as others: their shortest decimals are not always read as the numbers that they stand for.

* `Rule.faithful`, `Script.faithful`: rules and scripts.
* `Script.ofText?_reencoded`: a script is read from its own text, and when it is the same.
* `Script.exists_reencoded_ne`: a script that comes back with another number.
-/

namespace AnnotationBridge

open Lsp
open Json (Faithful Holds ThroughReals text_faithful flag_faithful uint64_faithful)

variable {f : Double → Double}

/-! ### Rules and scripts -/

/-- The rule with the double-precision numbers that its actions carry changed. -/
def Rule.mapReals (f : Double → Double) (r : Rule) : Rule :=
  { r with actions := r.actions.map (Action.mapReals f) }

/-- The script with the double-precision numbers that its actions carry changed. -/
def Script.mapReals (f : Double → Double) (s : Script) : Script :=
  { s with rules := s.rules.map (Rule.mapReals f) }

/-- The double-precision numbers that a rule carries. -/
def Rule.reals (r : Rule) : List Double :=
  r.actions.flatMap Action.reals

/-- The double-precision numbers that a script carries. -/
def Script.reals (s : Script) : List Double :=
  s.rules.flatMap Rule.reals

/-- A rule holds the numbers of its actions. -/
theorem Rule.throughReals (f : Double → Double) : ThroughReals f (mapReals f) reals := by
  intro r
  rw [reals, ← (Action.throughReals f).list r.actions, mapReals]
  exact ⟨congrArg actions, fun h => by rw [h]⟩

/-- A script holds the numbers of its rules. -/
theorem Script.throughReals (f : Double → Double) : ThroughReals f (mapReals f) reals := by
  intro s
  rw [reals, ← (Rule.throughReals f).list s.rules, mapReals]
  exact ⟨congrArg rules, fun h => by rw [h]⟩

/-- A truth value is read as itself. -/
theorem flag_holds {n : Nat} (b : Bool) : Holds f n Json.flag? (.bool b) b :=
  ⟨.bool b, rfl⟩

/-- An empty list is read as one. -/
theorem nil_holds {α : Type} {n : Nat} {decode : Json.Decoder α} {encode : α → Json} :
    Holds f (n + 1) (Json.list? decode) (.array (List.map encode [])) [] :=
  ⟨.array (by rintro _ ⟨⟩), rfl⟩

/-- Rules are kept, up to what becomes of their numbers. -/
theorem Rule.faithful : Faithful f 10 ofJson? toJson (mapReals f) := by
  refine Faithful.record
    (fun r => [("actions", some (.array (r.actions.map Action.toJson))),
      ("code", some ((r.code.map Json.string).getD .null)), ("fail", some (.bool r.fail)),
      ("hang", some (.bool r.hang)), ("latency_ms", some (.nat r.latencyMs.toNat)),
      ("message", some ((r.message.map Json.string).getD .null))])
    (fun _ => rfl) (fun _ => rfl) (fun _ => by simp) ?_
  intro n r rule hn hr h
  obtain ⟨n, rfl⟩ := Nat.exists_eq_add_of_le' (Nat.le_trans (by decide : 1 ≤ 9) hn)
  simp only [Option.bind_eq_bind, Option.bind_eq_some_iff, Option.some.injEq] at h
  obtain ⟨code, hcode, message, hmessage, actions, hactions, fail, hfail, hang, hhang, latency, hlatency,
    rfl⟩ := h
  have hcode := text_faithful.nullable (f := f) (by omega) hr hcode
  have hmessage := text_faithful.nullable (f := f) (by omega) hr hmessage
  have hactions := Action.faithful.list.defaulted (f := f) hn hr nil_holds hactions
  have hfail := flag_faithful.defaulted (f := f) (by omega) hr (flag_holds false) hfail
  have hhang := flag_faithful.defaulted (f := f) (by omega) hr (flag_holds false) hhang
  have hlatency := uint64_faithful.defaulted (f := f) (by omega) hr (Json.uint64_holds 0) hlatency
  refine ⟨?_, fun r' hr' => ?_⟩
  · simp only [List.forall_mem_cons]
    exact ⟨hactions.written, hcode.written, hfail.written, hhang.written, hlatency.written,
      hmessage.written, nofun⟩
  · simp only [hcode.read r' (hr' _), hmessage.read r' (hr' _), hactions.read r' (hr' _),
      hfail.read r' (hr' _), hhang.read r' (hr' _), hlatency.read r' (hr' _)]
    simp [mapReals]

/-- Scripts are kept, up to what becomes of their numbers. -/
theorem Script.faithful : Faithful f 12 ofJson? toJson (mapReals f) := by
  refine Faithful.record
    (fun s => [("code_actions", some (.bool s.codeActions)),
      ("latency_ms", some (.nat s.latencyMs.toNat)),
      ("rules", some (.array (s.rules.map Rule.toJson)))])
    (fun _ => rfl) (fun _ => rfl) (fun _ => by simp) ?_
  intro n r s hn hr h
  obtain ⟨n, rfl⟩ := Nat.exists_eq_add_of_le' (Nat.le_trans (by decide : 1 ≤ 11) hn)
  simp only [Option.bind_eq_bind, Option.bind_eq_some_iff, Option.some.injEq] at h
  obtain ⟨actions, hactions, latency, hlatency, rules, hrules, rfl⟩ := h
  have hactions := flag_faithful.defaulted (f := f) (by omega) hr (flag_holds true) hactions
  have hlatency := uint64_faithful.defaulted (f := f) (by omega) hr (Json.uint64_holds 0) hlatency
  have hrules := Rule.faithful.list.defaulted (f := f) hn hr nil_holds hrules
  refine ⟨?_, fun r' hr' => ?_⟩
  · simp only [List.forall_mem_cons]
    exact ⟨hactions.written, hlatency.written, hrules.written, nofun⟩
  · simp only [hactions.read r' (hr' _), hlatency.read r' (hr' _), hrules.read r' (hr' _)]
    simp [mapReals]

/-! ### Texts of scripts -/

namespace Script

variable {text : String} {s : Script}

/-- What is written for a script that was read from a text is read as that script with its numbers
changed. -/
theorem holds_of_ofText? (f : Double → Double) (h : ofText? text = some s) :
    Holds f Json.nestingLimit ofJson? s.toJson (s.mapReals f) := by
  obtain ⟨j, hj, hs⟩ := Option.bind_eq_some_iff.1 h
  exact faithful.holds (by decide) (Json.fits_of_ofText? hj) hs

/-- A script is read from its own text, up to what becomes of its numbers. -/
theorem ofText?_toText (h : ofText? text = some s) :
    ofText? s.toJson.toText = some (s.mapReals Double.reread) := by
  rw [ofText?, (holds_of_ofText? Double.reread h).written.ofText?_toText]
  exact (holds_of_ofText? Double.reread h).decoded

/-- The double-precision numbers of a script that was read are within the bounds. -/
theorem valid_of_mem_reals (h : ofText? text = some s) : ∀ x ∈ s.reals, x.magnitude.Valid :=
  Holds.forall_reals (holds_of_ofText? · h) throughReals fun _ hx =>
    (holds_of_ofText? id h).written.fits.valid_of_mem_reals hx

/-- **A script is read from its own text.** Rules, actions and fields keep their places and kinds,
and the script is the same exactly if each double-precision number that it carries is read as
itself. So is any whose shortest decimal has few digits. -/
theorem ofText?_reencoded (h : ofText? text = some s) :
    ofText? s.toJson.toText = some (s.mapReals Double.reread) ∧
      (ofText? s.toJson.toText = some s ↔ ∀ x ∈ s.reals, x.reread = x) ∧
      ∀ x ∈ s.reals, x.magnitude.shortest.IsPlain → x.reread = x := by
  have hread := ofText?_toText h
  refine ⟨hread, ?_, fun x hx => Double.reread_eq_self (valid_of_mem_reals h x hx)⟩
  rw [hread, Option.some_inj]
  exact throughReals Double.reread s

namespace Sample

/-- A script that offers a command, and a code action with a command and an edit. -/
def offers : String :=
  "\x7b\"rules\":[\x7b\"message\":\"m\",\"actions\":[" ++
    "\x7b\"title\":\"Run\",\"command\":\"run\",\"arguments\":[-1,2.5]\x7d," ++
    "\x7b\"title\":\"Fix\",\"command\":\x7b\"title\":\"Run\",\"command\":\"run\"\x7d," ++
    "\"edit\":\x7b\"changes\":\x7b\"file:///a\":[]\x7d\x7d,\"data\":1e3\x7d]\x7d]\x7d"

/-- A script with a number that comes back as the next greater one. -/
def tiny : String :=
  "\x7b\"rules\":[\x7b\"actions\":[\x7b\"title\":\"Fix\",\"data\":1.0e-23\x7d]\x7d]\x7d"

end Sample

/-- The numbers of this script are read as themselves. -/
theorem ofText?_reencoded_offers : ∃ s, ofText? Sample.offers = some s ∧
    s.reals = [⟨false, ⟨5629499534213120, 1023⟩⟩, ⟨false, ⟨8796093022208000, 1031⟩⟩] ∧
    ofText? s.toJson.toText = some s := by
  obtain ⟨s, hs, hreals⟩ : ∃ s, ofText? Sample.offers = some s ∧
      s.reals = [⟨false, ⟨5629499534213120, 1023⟩⟩, ⟨false, ⟨8796093022208000, 1031⟩⟩] :=
    Option.map_eq_some_iff.1 (by decide +kernel)
  obtain ⟨-, hsame, hplain⟩ := ofText?_reencoded hs
  refine ⟨s, hs, hreals, hsame.2 fun x hx => hplain x hx ?_⟩
  rw [hreals] at hx
  revert x
  decide +kernel

/-- **A script may come back with another number.** -/
theorem exists_reencoded_ne : ∃ s t, ofText? Sample.tiny = some s ∧
    ofText? s.toJson.toText = some t ∧ s ≠ t ∧
    s.reals = [⟨false, ⟨6805647338418769, 945⟩⟩] ∧ t.reals = [⟨false, ⟨6805647338418770, 945⟩⟩] := by
  obtain ⟨s, hs, hreals⟩ : ∃ s, ofText? Sample.tiny = some s ∧
      s.reals = [⟨false, ⟨6805647338418769, 945⟩⟩] :=
    Option.map_eq_some_iff.1 (by decide +kernel)
  have hread : ((ofText? Sample.tiny).bind fun s => ofText? s.toJson.toText).map reals =
      some [⟨false, ⟨6805647338418770, 945⟩⟩] := by
    decide +kernel
  rw [hs, Option.bind_some] at hread
  obtain ⟨t, ht, hother⟩ := Option.map_eq_some_iff.1 hread
  refine ⟨s, t, hs, ht, ?_, hreals, hother⟩
  rintro rfl
  exact absurd (hreals.symm.trans hother) (by decide)

end Script

end AnnotationBridge
