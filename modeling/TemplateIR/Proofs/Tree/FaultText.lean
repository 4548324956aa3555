import TemplateIR.Tree.CopyRun

/-!
The wording of the faults that stop a copy.
-/
namespace TemplateIR

theorem InternalError.text_diagnostic (report : InternalError) :
    report.diagnostic.text = "Internal compiler error: " ++ report.detail := by
  have filled : fillOne 0 report.detail.toList "Internal compiler error: \x7b0\x7d".toList =
      "Internal compiler error: ".toList ++ (report.detail.toList ++ []) := rfl
  have text : report.diagnostic.text = String.ofList
      (fillOne 0 report.detail.toList "Internal compiler error: \x7b0\x7d".toList) := rfl
  rw [text, filled, List.append_nil, ← String.toList_append, String.ofList_toList]

theorem NodeId.text_eq (id : NodeId) : id.text = "#" ++ toString id.number := by
  apply String.toList_injective
  simp only [NodeId.text, String.toList_append, Nat.toString_eq_ofList_toDigits,
    String.toList_ofList]
  rfl

theorem CopyFault.message_dangling (target : NodeId) (span : Span) :
    (CopyFault.dangling target span).message =
      "Internal compiler error: reference to node #" ++ toString target.number ++
        " which is not part of the copied tree (file " ++ toString span.file.index.toNat ++ ", " ++
        toString span.start.toNat ++ ".." ++ toString span.stop.toNat ++ ")" := by
  have opening : "Internal compiler error: reference to node #" =
      "Internal compiler error: " ++ ("reference to node " ++ "#") := rfl
  have closing : " which is not part of the copied tree (file " =
      " which is not part of the copied tree" ++ " (file " := rfl
  simp only [message, InternalError.message, InternalError.text_diagnostic, danglingReport,
    NodeId.text_eq, opening, closing, String.append_assoc]

theorem CopyFault.message_copiedTwice (old : NodeId) :
    (CopyFault.copiedTwice old).message =
      "node #" ++ toString old.number ++ " copied twice in one copy operation" := by
  have opening : "node #" = "node " ++ "#" := rfl
  simp only [message, NodeId.text_eq, opening, String.append_assoc]

end TemplateIR
