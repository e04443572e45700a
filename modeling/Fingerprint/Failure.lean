import Fingerprint.Field
import Fingerprint.Regex.Syntax
import Fingerprint.Storage.Path

/-!
What can go wrong, by cause, and the text that reports it.

A text that passes on the words of a system or a document reader ends with the colon before them.
-/

namespace Fingerprint

/-- A cause of failure. -/
inductive Failure where
  /-- A plugin path that cannot be looked at. -/
  | pathUnreadable (path : String) (fault : Path.Fault)
  /-- A plugin file whose name ends neither as JSON nor as YAML. -/
  | fileTypeUnsupported (path : String)
  /-- A plugin file whose contents cannot be read as plugins. -/
  | fileMalformed (path : String) (cause : Failure)
  /-- A plugin without a name. -/
  | nameBlank
  /-- A second plugin of the same name. -/
  | pluginDuplicate (name : String)
  /-- A catalog cache that cannot be written. -/
  | cacheUnwritable (path : String) (fault : Path.Fault)
  /-- A pattern that is no regular expression. -/
  | patternMalformed (plugin pattern : String) (cause : Regex.SyntaxError)
  /-- A matcher of another field that names a header. -/
  | headerMisplaced (plugin : String) (field : Field) (pattern : String)
  /-- A script matcher with a blank expression. -/
  | scriptBlank (plugin : String)
  /-- A matcher that has to yield a text and captures none. -/
  | captureMissing (plugin : String) (category : Category) (pattern : String)
  /-- A capture group that the pattern does not have. -/
  | captureOutOfRange (plugin pattern : String) (index available : Nat)
  /-- A field that the transaction lacks. -/
  | fieldMissing (field : Field)
  /-- A plugin that the catalog lacks. -/
  | pluginUnknown (name : String)
  /-- Script matchers none of which applied where one was expected to. -/
  | scriptsUnresolved (plugin : String)
  /-- Limits under which no sandbox can be created. -/
  | sandboxUnavailable
  /-- Threads of a parallel detector that the system does not start. -/
  | threadsRefused
  /-- A time limit that ends beyond the last reading of the clock; it aborts the whole pass. -/
  | deadlineOverflow
  /-- The shared detector is used before it is initialised. -/
  | detectorMissing
  /-- A sample that declares no field. -/
  | sampleEmpty
  /-- A sample that does not declare the field it is asked for. -/
  | sampleLacks (field : Field)
  /-- A fixture file whose contents cannot be read as fixtures. -/
  | fixtureMalformed (path : String) (cause : Failure)
  | jsonMalformed
  | yamlMalformed
  | messagePackMalformed
  | systemRefused
deriving DecidableEq, Repr, Inhabited

namespace Failure

/-- The text of a failure. -/
def message : Failure → String
  | .pathUnreadable path fault => s!"插件加载失败：{path}：" ++ fault.detail
  | .fileTypeUnsupported path => s!"插件加载失败：不支持的插件文件类型：{path}"
  | .fileMalformed path cause => s!"插件解析失败：{path}：" ++ cause.message
  | .nameBlank => "插件解析失败：插件名称为空"
  | .pluginDuplicate name => s!"插件重复定义：{name}"
  | .cacheUnwritable path fault => s!"插件缓存失败：{path}：" ++ fault.detail
  | .patternMalformed plugin pattern _ => s!"插件 {plugin} 的正则编译失败：{pattern}："
  | .headerMisplaced plugin field pattern =>
    s!"插件 {plugin} 的匹配器无效：{field.name} 字段的匹配器不能指定 header：{pattern}"
  | .scriptBlank plugin => s!"插件 {plugin} 的匹配器无效：脚本匹配器的 check/version 表达式不能为空"
  | .captureMissing plugin category pattern =>
    s!"插件 {plugin} 的 {category.name} 匹配器缺少捕获分组：{pattern}"
  | .captureOutOfRange plugin pattern index available =>
    s!"插件 {plugin} 的捕获分组序号 {index} 超出范围（共 {available} 个分组）：{pattern}"
  | .fieldMissing field => s!"事务缺少字段：{field.name}"
  | .pluginUnknown name => s!"未知插件：{name}"
  | .scriptsUnresolved plugin => s!"插件 {plugin} 的脚本匹配器未产生任何结果"
  | .sandboxUnavailable => "脚本沙箱创建失败：Allocation failed while creating object"
  | .threadsRefused => "无效输入：线程池创建失败："
  | .deadlineOverflow => "脚本时限超出时钟范围"
  | .detectorMissing => "检测器未初始化"
  | .sampleEmpty => "校验样例无效：样例未声明 url/body/header 字段"
  | .sampleLacks field => s!"校验样例无效：样例未声明字段：{field.name}"
  | .fixtureMalformed path cause => s!"校验样例无效：{path}：" ++ cause.message
  | .jsonMalformed => "JSON解析失败："
  | .yamlMalformed => "YAML解析失败："
  | .messagePackMalformed => "MessagePack序列化/反序列化失败：反序列化失败："
  | .systemRefused => "IO操作失败："

/-- Whether the failure is a defect of a plugin as its author wrote it. -/
def isConfigurationFault : Failure → Bool
  | .patternMalformed .. | .headerMisplaced .. | .scriptBlank .. | .captureMissing ..
  | .captureOutOfRange .. | .pluginDuplicate .. | .fieldMissing .. | .scriptsUnresolved .. => true
  | _ => false

/-- Whether the failure aborts a pass instead of being reported for one plugin. -/
def aborts : Failure → Bool
  | .deadlineOverflow => true
  | _ => false

end Failure

end Fingerprint
