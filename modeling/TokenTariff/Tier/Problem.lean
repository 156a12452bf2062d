import TokenTariff.Tier.Basic

/-!
# Problems of a tier

What keeps a tier from being saved. The ratios and the bounds are looked at independently; of the
two spans only the first inverted one is reported.
-/

namespace TokenTariff.Tier

inductive Problem where
  | inputInverted
  | outputInverted
  | negativeCompletion
  | negativeModel
deriving DecidableEq

namespace Problem

/-- The field that the problem is about; inverted bounds concern the tier as a whole. -/
def field : Problem → String
  | inputInverted | outputInverted => "__all__"
  | negativeCompletion => "completion_ratio"
  | negativeModel => "model_ratio"

def code : Problem → String
  | inputInverted => "input_range"
  | outputInverted => "output_range"
  | negativeCompletion | negativeModel => "range"

def text : Problem → String
  | inputInverted => "输入token最小值不能大于最大值"
  | outputInverted => "输出token最小值不能大于最大值"
  | negativeCompletion => "补全倍率不能为负数"
  | negativeModel => "模型倍率不能为负数"

def line (p : Problem) : String := s!"{p.field}: {p.text}"

end Problem

def boundsProblem (t : Tier) : List Problem :=
  if t.input.isInverted then [.inputInverted]
  else if t.output.isInverted then [.outputInverted]
  else []

theorem boundsProblem_eq_nil_iff (t : Tier) :
    t.boundsProblem = [] ↔ t.input.isInverted = false ∧ t.output.isInverted = false := by
  unfold boundsProblem
  cases t.input.isInverted <;> cases t.output.isInverted <;> simp

def problems (t : Tier) : List Problem :=
  t.boundsProblem
    ++ (if t.completionRatio < 0 then [.negativeCompletion] else [])
    ++ (if t.modelRatio < 0 then [.negativeModel] else [])

end TokenTariff.Tier
