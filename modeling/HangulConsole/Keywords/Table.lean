/-!
# The keyword table

The localized names that a program may use, and what each of them stands for.
-/

namespace HangulConsole
namespace Keywords

structure Keyword where
  name : String
  /-- The guest expression that it stands for. -/
  expr : String
  /-- What the help listing shows for it. -/
  origin : String
deriving Repr, DecidableEq

/-- The origin of the names that have no single guest name behind them. -/
def userDefined : String := "lambda (사용자 정의)"

def builtin : List Keyword :=
  [
    ⟨"출력", "print", "print"⟩,
    ⟨"입력", "input", "input"⟩,
    ⟨"열기", "open", "open"⟩,
    ⟨"닫기", "lambda f: f.close()", userDefined⟩,
    ⟨"정수", "int", "int"⟩,
    ⟨"실수", "float", "float"⟩,
    ⟨"문자열", "str", "str"⟩,
    ⟨"부울", "bool", "bool"⟩,
    ⟨"목록", "list", "list"⟩,
    ⟨"집합", "set", "set"⟩,
    ⟨"사전", "dict", "dict"⟩,
    ⟨"튜플", "tuple", "tuple"⟩,
    ⟨"참", "True", "True"⟩,
    ⟨"거짓", "False", "False"⟩,
    ⟨"없음", "None", "None"⟩,
    ⟨"만약", "lambda cond, 참값, 거짓값=None: (참값 if cond else 거짓값)", userDefined⟩,
    ⟨"반복범위", "range", "range"⟩,
    ⟨"반복", "lambda n, f: [f(i) for i in range(n)]", userDefined⟩,
    ⟨"모두", "all", "all"⟩,
    ⟨"하나라도", "any", "any"⟩,
    ⟨"길이", "len", "len"⟩,
    ⟨"합계", "sum", "sum"⟩,
    ⟨"최대", "max", "max"⟩,
    ⟨"최소", "min", "min"⟩,
    ⟨"추가", "lambda lst, v: lst.append(v)", userDefined⟩,
    ⟨"제거", "lambda lst, v=None: (lst.remove(v) if v is not None else lst.pop())", userDefined⟩,
    ⟨"정렬", "lambda lst, 역순=False: lst.sort(reverse=역순)", userDefined⟩,
    ⟨"정렬된", "lambda lst, 역순=False: sorted(lst, reverse=역순)", userDefined⟩,
    ⟨"평균", "lambda a: (sum(a) / len(a)) if a else 0", userDefined⟩,
    ⟨"나누기", "lambda s, sep=None: s.split(sep)", userDefined⟩,
    ⟨"합치기", "lambda lst, sep=\"\": sep.join(lst)", userDefined⟩,
    ⟨"대문자변경", "lambda s: s.upper()", userDefined⟩,
    ⟨"소문자변경", "lambda s: s.lower()", userDefined⟩,
    ⟨"바꾸기", "lambda s, a, b: s.replace(a, b)", userDefined⟩,
    ⟨"찾기", "lambda s, x: s.find(x)", userDefined⟩,
    ⟨"포함됨", "lambda s, x: (x in s)", userDefined⟩,
    ⟨"제곱", "lambda x: x**2", userDefined⟩,
    ⟨"제곱근", "math.sqrt", "math.sqrt"⟩,
    ⟨"절댓값", "abs", "abs"⟩,
    ⟨"올림", "math.ceil", "math.ceil"⟩,
    ⟨"내림", "math.floor", "math.floor"⟩,
    ⟨"반올림", "round", "round"⟩,
    ⟨"사인", "math.sin", "math.sin"⟩,
    ⟨"코사인", "math.cos", "math.cos"⟩,
    ⟨"탄젠트", "math.tan", "math.tan"⟩,
    ⟨"파이", "math.pi", "math.pi"⟩,
    ⟨"무작위", "random", "random (module)"⟩,
    ⟨"지금", "datetime.datetime.now", "datetime.now"⟩,
    ⟨"대기", "time.sleep", "time.sleep"⟩,
    ⟨"현재경로", "os.getcwd", "os.getcwd"⟩,
    ⟨"경로변경", "os.chdir", "os.chdir"⟩,
    ⟨"파일삭제", "os.remove", "os.remove"⟩,
    ⟨"폴더목록", "os.listdir", "os.listdir"⟩,
    ⟨"만들기", "os.mkdir", "os.mkdir"⟩,
    ⟨"종료", "sys.exit", "sys.exit"⟩
  ]

def helpFunction : String := "도움말"

end Keywords
end HangulConsole
