import TokenTariff.Json.Fault
import TokenTariff.Tier.Problem
import TokenTariff.Tier.Summary

/-!
# Errors

Errors are kept as causes, in three layers: what is wrong with prices and tariffs, what goes wrong
between us and the remote store, and what a request can be answered with. Each cause has one
wording, and each answer one status.
-/

namespace TokenTariff

open Json

inductive BadArgument where
  /-- A completion ratio is asked for relative to a free input. -/
  | zeroInputPrice
  /-- A value that is negative or no number. -/
  | notNonNegative (field : String) (value : Float)

def BadArgument.text : BadArgument → String
  | zeroInputPrice => "输入价格不能为0"
  | notNonNegative field value => s!"{field} 必须为非负数: {plainText value}"

inductive Malformed where
  | blankModel
  /-- A flat tariff cannot be switched off, only deleted. -/
  | flatDisabled
  /-- A flat tariff with neither a price nor a model ratio. -/
  | nothingSet
  | notNonNegative (field : String) (value : Float)
  | noTiers
  /-- Problems of the tier at a position, counted from one. -/
  | badTier (position : Nat) (problems : List Tier.Problem)
  | flatWithTiers (model : String)
  | tieredWithFlatFields (model : String)
  | tieredWithoutTiers (model : String)
  | notFlat (model : String)
  /-- The text of an option is no table. -/
  | badTable (key : String) (fault : Fault)
  | unreadable (fault : Fault)

def Malformed.text : Malformed → String
  | blankModel => "模型名称不能为空"
  | flatDisabled => "固定倍率模式不支持停用，请删除配置"
  | nothingSet => "请至少设置固定价格或模型倍率"
  | notNonNegative field value => s!"{field} 必须为非负数: {plainText value}"
  | noTiers => "分段倍率模式至少需要一条规则"
  | badTier position problems =>
    s!"规则 {position} 无效: " ++ "\n".intercalate (problems.map Tier.Problem.line)
  | flatWithTiers model => s!"模型 '{model}' 为固定倍率模式，不能包含分段规则"
  | tieredWithFlatFields model => s!"模型 '{model}' 为分段倍率模式，不能包含固定价格或固定倍率"
  | tieredWithoutTiers model => s!"模型 '{model}' 为分段倍率模式，至少需要一条规则"
  | notFlat model => s!"模型 '{model}' 不是固定倍率模式"
  | badTable key fault => s!"解析选项 {key} 失败: {fault.message}"
  | unreadable fault => fault.message

inductive PricingError where
  | badArgument (cause : BadArgument)
  | noMatchingTier (input output : UInt64)
  | malformed (cause : Malformed)

def PricingError.message : PricingError → String
  | badArgument cause => s!"参数无效: {cause.text}"
  | noMatchingTier input output => s!"未找到匹配的分段规则: 输入token={input}, 输出token={output}"
  | malformed cause => s!"配置格式错误: {cause.text}"

inductive RemoteError where
  /-- No answer came, or none could be asked for. -/
  | transport
  | rejected (reason : String)
  | badAddress (address : String)
  | undecodable (fault : Fault)
  | pricing (e : PricingError)

def RemoteError.message : RemoteError → String
  | transport => "请求上游失败"
  | rejected reason => s!"上游拒绝请求: {reason}"
  | badAddress address => s!"上游地址无效: {address}"
  | undecodable fault => s!"解析上游数据失败: {fault.message}"
  | pricing e => e.message

inductive ServiceError where
  | pricing (e : PricingError)
  | remote (e : RemoteError)
  | notFound (model : String)
  | disabled (model : String)

namespace ServiceError

def message : ServiceError → String
  | pricing e => e.message
  | remote e => e.message
  | notFound model => s!"未找到模型 '{model}' 的倍率配置"
  | disabled model => s!"模型 '{model}' 的倍率配置未启用"

/-- The status of the answer. A tariff or table that cannot be understood counts as the fault of the
request, also where it was read from the store. -/
def status : ServiceError → Nat
  | pricing (.noMatchingTier ..) => 404
  | pricing _ => 400
  | remote (.pricing _) => 400
  | remote _ => 502
  | notFound _ => 404
  | disabled _ => 409

end ServiceError

end TokenTariff
