/-
What can go wrong, told by its cause, and the sentence in which each cause is
reported. The causes fall into families, by the part of the job that refuses:
the form of a text or field, file names that have no common order, a missing
field, the settings, a snapshot signal, the store, JSON text, and patterns.
-/

namespace BinlogCursor

/-- A text or field that does not have the form it should have. -/
inductive FormatFault
  | reversedInterval (first last : UInt64)
  /-- A segment of an interval list that is neither a number nor two joined by a hyphen. -/
  | badInterval (segment : String)
  | noIntervals
  /-- A GTID entry in which no colon ends the server's name. -/
  | entryWithoutColon (entry : String)
  | entryWithoutServer (entry : String)
  | fieldNotNumber (field raw : String)
  | fieldNotBoolean (field text : String)
  | notAnObject
  /-- A JSON checkpoint with an array or object as the value of a field. -/
  | compositeField (field json : String)
deriving DecidableEq

/-- Settings that cannot be used. -/
inductive SettingsFault
  | notNumber (name raw : String)
  | bothServerLists
  /-- Checkpoints would be written without a pause. -/
  | zeroInterval
deriving DecidableEq

/-- A snapshot that cannot be started or from which streaming cannot resume. -/
inductive SignalFault
  | notBlocking
  | noCollections
  /-- The position at the end lies before the position of the suspension. -/
  | behindSuspension (current suspended : String)
  /-- The two positions have no order. -/
  | apartFromSuspension (current suspended : String)
deriving DecidableEq

inductive Fault
  | format (cause : FormatFault)
  | unrelatedFiles (left right : String)
  | missingField (field : String)
  | settings (cause : SettingsFault)
  | signal (cause : SignalFault)
  | store (reason : String)
  | json
  | pattern
deriving DecidableEq

/-- An answer, or the cause for which there is none. -/
abbrev Outcome (α : Type) := Except Fault α

def FormatFault.message : FormatFault → String
  | .reversedInterval first last => s!"구간의 시작이 끝보다 큽니다: {first}-{last}"
  | .badInterval segment => s!"숫자가 아닌 구간: '{segment}'"
  | .noIntervals => "빈 구간 목록"
  | .entryWithoutColon entry => s!"GTID 항목에 ':'가 없습니다: '{entry}'"
  | .entryWithoutServer entry => s!"GTID 항목에 서버 식별자가 없습니다: '{entry}'"
  | .fieldNotNumber field raw => s!"체크포인트 필드 '{field}'가 숫자가 아닙니다: '{raw}'"
  | .fieldNotBoolean field text => s!"체크포인트 필드 '{field}'가 불리언이 아닙니다: '{text}'"
  | .notAnObject => "체크포인트는 JSON 객체여야 합니다"
  | .compositeField field json => s!"체크포인트 필드 '{field}'의 값이 올바르지 않습니다: {json}"

def SettingsFault.message : SettingsFault → String
  | .notNumber name raw => s!"{name}가 숫자가 아닙니다: '{raw}'"
  | .bothServerLists => "GTID include와 exclude 목록은 동시에 설정할 수 없습니다"
  | .zeroInterval => "체크포인트 주기는 0보다 커야 합니다"

def SignalFault.message : SignalFault → String
  | .notBlocking => "블로킹 스냅샷 시그널이 아닙니다: Incremental"
  | .noCollections => "data-collections가 비어 있습니다"
  | .behindSuspension current suspended => s!"재개 위치 {current}가 중단 위치 {suspended}보다 앞섭니다"
  | .apartFromSuspension current suspended =>
    s!"재개 위치 {current}와 중단 위치 {suspended}를 비교할 수 없습니다"

def Fault.message : Fault → String
  | .format cause => "유효하지 않은 형식: " ++ cause.message
  | .unrelatedFiles left right => s!"비교할 수 없는 binlog 파일명 형식: '{left}' vs '{right}'"
  | .missingField field => s!"체크포인트에 필수 필드가 없습니다: {field}"
  | .settings cause => "설정 에러: " ++ cause.message
  | .signal cause => "시그널 처리 에러: " ++ cause.message
  | .store reason => s!"오프셋 저장소 에러: {reason}"
  | .json => "직렬화 에러"
  | .pattern => "정규식 에러"

end BinlogCursor
