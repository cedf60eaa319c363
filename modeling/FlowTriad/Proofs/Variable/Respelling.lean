/-
`Proofs/Variable/Respelling.lean` -- a variable under a name with other ASCII capitals.

The generator's name for a variable is an entry of the table of names or, where there is none,
the variable's own name in small letters. Both ways are blind to the case of ASCII letters,
each for its own reason: the table is searched by names that are folded, so all spellings find
one entry (`find?_congr`), and what is folded has the same small letters
(`Text.lower_congr`). What else is in a name, a letter that is not ASCII or a sigma at
its end, does not matter.
-/
import FlowTriad.Proofs.Text.Casing
import FlowTriad.Proofs.Variable.NameTable
import FlowTriad.Variable

set_option autoImplicit false

namespace FlowTriad

variable {a b : String}

/-- Spellings of one name are the same in small letters. -/
theorem Text.lower_congr (h : Text.sameIgnoringCase a b) :
    Text.lower a.toList = Text.lower b.toList := by
  rw [← Text.lower_map_foldAscii, Text.sameIgnoringCase_iff.1 h, Text.lower_map_foldAscii]

/-- They find the same entry. -/
theorem NameTable.find?_congr (h : Text.sameIgnoringCase a b) (t : NameTable) :
    t.find? a = t.find? b := by
  unfold NameTable.find?
  congr 1
  funext e
  exact Text.sameIgnoringCase_congr h e.1

/-- **The generator's key does not depend on ASCII case.** To names that are the same but for
the case of ASCII letters a table has one entry, or none for either, and one answer; so
variables of these names that have no key of their own for the generator are read from the
same field of its reports. -/
theorem generator_key_ignores_case (h : Text.sameIgnoringCase a b) (t : NameTable) :
    t.find? a = t.find? b ∧ t.resolve a = t.resolve b ∧
      ∀ v w : Variable, v.name = a → w.name = b → v.generatorKey = none → w.generatorKey = none →
        v.keyFor t .trafficGenerator = w.keyFor t .trafficGenerator := by
  have hfind := NameTable.find?_congr h t
  have hresolve : t.resolve a = t.resolve b := by
    unfold NameTable.resolve
    rw [hfind, Text.lower_congr h]
  refine ⟨hfind, hresolve, ?_⟩
  rintro v w rfl rfl hv hw
  unfold Variable.keyFor
  simp only [hv, hw]
  exact hresolve

/-- A name that ends in a sigma, which becomes the final form behind a letter. -/
def sigmaVariable (name : String) : Variable where
  name := name
  title := ""
  axis := ""

/-- One name is found in the table, and the other is not. -/
theorem generator_key_ignores_case_sigma :
    Text.sameIgnoringCase "sndCwnd" "SNDCWND" ∧ Text.sameIgnoringCase "rttΣ" "RTTΣ" ∧
      NameTable.standard.find? "SNDCWND" = some ("sndcwnd", "snd_cwnd") ∧
      NameTable.standard.find? "sndCwnd" = NameTable.standard.find? "SNDCWND" ∧
      NameTable.standard.find? "RTTΣ" = none ∧
      NameTable.standard.resolve "RTTΣ" = "rttς" ∧
      NameTable.standard.resolve "rttΣ" = NameTable.standard.resolve "RTTΣ" ∧
      (sigmaVariable "rttΣ").keyFor .standard .trafficGenerator =
        (sigmaVariable "RTTΣ").keyFor .standard .trafficGenerator := by
  have hfound : Text.sameIgnoringCase "sndCwnd" "SNDCWND" := by decide
  have hsigma : Text.sameIgnoringCase "rttΣ" "RTTΣ" := by decide
  obtain ⟨hentry, -⟩ := generator_key_ignores_case hfound .standard
  obtain ⟨-, hresolve, hkey⟩ := generator_key_ignores_case hsigma .standard
  exact ⟨hfound, hsigma, by decide, hentry, by decide, by decide +kernel, hresolve,
    hkey _ _ rfl rfl rfl rfl⟩

end FlowTriad
