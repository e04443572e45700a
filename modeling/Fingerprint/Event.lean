import Fingerprint.Detection.Basic
import Fingerprint.Failure
import Fingerprint.Probe.Basic

/-!
Events that are reported while the library works, each with the level that it has.

Events are values beside the results; nothing is reported in the middle of a computation.
-/

namespace Fingerprint

/-- Levels of events, the most severe one first. -/
inductive Level where
  | warn
  | info
  | debug
  | trace
deriving DecidableEq, Repr, Inhabited

namespace Level

def name : Level → String
  | .warn => "warn"
  | .info => "info"
  | .debug => "debug"
  | .trace => "trace"

def ofName? : String → Option Level
  | "warn" => some .warn
  | "info" => some .info
  | "debug" => some .debug
  | "trace" => some .trace
  | _ => none

def severity : Level → Nat
  | .warn => 3
  | .info => 2
  | .debug => 1
  | .trace => 0

end Level

/-- Something that happened. -/
inductive Event where
  | pluginSkipped (plugin : String) (failure : Failure)
  | catalogCompiled (plugins matchers scriptMatchers : Nat)
  | headersCut (limit : Nat)
  | headersRead (count : Nat)
  | scriptsSkipped (bytes : Nat)
  | matcherApplied (description : String) (fragments : Nat)
  | fieldMissing (missing : MissingField)
  | probeNoted (note : ProbeNote)
  | probeFinished (outcome : ProbeOutcome)
  | scriptsUseless (plugin : String) (fault : ScriptFault)
  | assertionFailed (plugin : String) (fault : ScriptFault)
  | technologyFound (plugin : String) (detection : Detection)
  | pluginFailed (fault : PluginFault)
  /-- The end of a pass; a verbose one is reported to more readers and in more detail. -/
  | passFinished (verbose : Bool) (found faults missing : Nat)
  | fixturesChecked (count failures : Nat)
  | detectorReady (plugins : Nat)
  | cacheDecoded (plugins : Nat)
  | cacheUsed (plugins : Nat)
  | cacheMissed (failure : Failure)
  | definitionsRead (plugins : Nat)
  | cacheEncoded (bytes : Nat)
  | cacheStored
  | cacheRefused (failure : Failure)
deriving DecidableEq, Repr, Inhabited

namespace Event

def level : Event → Level
  | .pluginSkipped .. | .headersCut _ | .pluginFailed _ | .cacheMissed _ | .cacheRefused _ => .warn
  | .passFinished true .. => .info
  | .scriptsSkipped _ | .matcherApplied .. | .probeNoted (.checkFailed ..) | .probeFinished _ =>
    .trace
  | _ => .debug

def text : Event → String
  | .pluginSkipped plugin failure => s!"插件编译失败，已跳过：{plugin}，错误：" ++ failure.message
  | .catalogCompiled plugins matchers scriptMatchers =>
    s!"📊 编译统计：插件{plugins}个、字段匹配器{matchers}条、脚本匹配器{scriptMatchers}条"
  | .headersCut limit => s!"Header数量超过{limit}，剩余部分已忽略"
  | .headersRead count => s!"Header转换完成，生成{count}条记录"
  | .scriptsSkipped bytes => s!"跳过脚本提取，body长度={bytes}"
  | .matcherApplied description fragments => s!"匹配成功：规则={description}，片段数={fragments}"
  | .fieldMissing missing => missing.display
  | .probeNoted (.blockFailed index text) => s!"第{index}个脚本块执行失败，已跳过：{text}"
  | .probeNoted (.checkFailed expression text) => s!"check 表达式求值失败：{expression}，错误：{text}"
  | .probeNoted (.versionFailed expression text) =>
    s!"version 表达式求值失败：{expression}，错误：{text}"
  | .probeFinished outcome => "脚本探测完成：" ++ outcome.display
  | .scriptsUseless plugin fault => s!"插件 {plugin} 的脚本匹配器无结果：" ++ fault.reason
  | .assertionFailed plugin fault => s!"插件 {plugin} 的脚本执行失败：" ++ fault.reason
  | .technologyFound plugin detection => s!"检测到技术：{plugin}，版本=" ++ detection.display
  | .pluginFailed fault => s!"插件 {fault.plugin} 检测失败：{fault.message}"
  | .passFinished true found faults missing =>
    s!"检测完成：命中{found}个，故障{faults}个，缺失字段{missing}处"
  | .passFinished false found faults _ => s!"检测完成：命中{found}个，故障{faults}个"
  | .fixturesChecked count failures => s!"样例校验完成：共{count}条，失败{failures}条"
  | .detectorReady plugins => s!"检测器初始化完成，插件数：{plugins}"
  | .cacheDecoded plugins => s!"缓存文件反序列化成功，插件数：{plugins}"
  | .cacheUsed plugins => s!"从本地缓存加载插件成功，插件数：{plugins}"
  | .cacheMissed failure => "本地缓存不存在或损坏，将读取插件定义：" ++ failure.message
  | .definitionsRead plugins => s!"插件定义读取完成，插件数：{plugins}"
  | .cacheEncoded bytes => s!"插件序列化成功，序列化后数据大小：{bytes} 字节"
  | .cacheStored => "插件已缓存到本地"
  | .cacheRefused failure => "插件缓存到本地失败：" ++ failure.message

/-- The events of at least a level. -/
def atLeast (level : Level) (events : List Event) : List Event :=
  events.filter fun event => level.severity ≤ event.level.severity

end Event

end Fingerprint
