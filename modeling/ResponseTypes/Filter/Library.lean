import ResponseTypes.Filter.Grammar

/-!
# The library of filters

Most filters that are known everywhere are defined in terms of others, in the language of filters
itself.

## Main definitions

- `Library.definitions`: the definitions.
- `Library.find?`: the definition of a name and number of arguments.
-/

namespace ResponseTypes
namespace Library

/-- The definitions as they are written. -/
def source : String := "
def error(f): reduce f as $x (.; $x | error);
def halt_error: halt_error(5);
def nan: 0 / 0;
def infinite: 1 / 0;

def select(f): if f then . else empty end;
def values: select(. != null);
def nulls: select(. == null);
def booleans: select(isboolean);
def numbers: select(isnumber);
def strings: select(isstring);
def arrays: select(isarray);
def objects: select(isobject);
def iterables: select(. >= []);
def scalars: select(. < []);

def tostring: if isstring then . else tojson end;
def tonumber: if isnumber then . else fromjson end;
def @text: tostring;
def @json: tojson;

def range($from; $upto): range($from; $upto; 1);
def range($upto): range(0; $upto; 1);
def recurse(f; cond): recurse(f | select(cond));
def recurse: recurse(.[]?);
def repeat(f): def rec: f, rec; rec;
def until(c; f): def rec: if c then . else f | rec end; rec;
def while(c; f): def rec: if c then ., (f | rec) else empty end; rec;

def map(f): [.[] | f];
def map_values(f): .[] |= f;
def walk(f): def rec: (.[]? |= rec) | f; rec;
def del(f): f |= empty;
def with_entries(f): to_entries | map(f) | from_entries;

def first: .[0];
def last: .[-1];
def nth(n): .[n];
def nth(n; f): first(skip(n; f));
def isempty(g): first((g | false), true);
def add(f): reduce f as $x (null; . + $x);
def add: add(.[]);
def all(g; cond): isempty(first(g | cond and empty));
def any(g; cond): isempty(first(g | cond or empty)) | not;
def all(cond): all(.[]; cond);
def any(cond): any(.[]; cond);
def all: all(.[]; .);
def any: any(.[]; .);

def in(xs): . as $x | xs | has($x);
def inside(xs): . as $x | xs | contains($x);
def index($i): indices($i)[0];
def rindex($i): indices($i)[-1];
def join($x):
  reduce .[] as $i (null; (if . == null then \"\" else . + $x end) + ($i | tostring)) // \"\";
def flatten: [recurse(arrays[]) | select(isarray | not)];
def flatten($depth):
  if $depth > 0 then map(if isarray then flatten($depth - 1) else [.] end) | add else . end;
def transpose: [range([.[] | length] | max // 0) as $i | [.[] | .[$i]]];

def min: min_by(.);
def max: max_by(.);
def unique_by(f): [group_by(f)[] | .[0]];
def unique: unique_by(.);

def path_values:
  def rec($path): (keys_unsorted? | .[]) as $k | ($path + [$k]) as $p | .[$k] | [$p, .], rec($p);
  rec([]);
def paths: path_values | .[0];
def paths(f): path_values | select(.[1] | f) | .[0];
def getpath($path): reduce $path[] as $p (.; .[$p]);

def split($re; flags): split_($re; flags + \"g\");
def splits(re; flags): split(re; flags)[];
def splits(re): splits(re; \"\");
def test(re; flags): matches(re; flags) | any;
def test(re): test(re; \"\");
def match(re; flags): matches(re; flags)[] | .[1:] as $groups | .[0] | .captures = $groups;
def match(re): match(re; \"\");
def capture(re; flags): matches(re; flags)[] | capture_object;
def capture(re): capture(re; \"\");
def scan(re; flags): matches(re; flags)[] | .[0].string;
def scan(re): scan(re; \"\");
def sub(re; f; flags):
  reduce split_matches(re; flags)[] as $x
    (\"\"; . + if $x | isstring then $x else $x | capture_object | f end);
def sub(re; f): sub(re; f; \"\");
def gsub(re; f): sub(re; f; \"g\");
def gsub(re; f; flags): sub(re; f; flags + \"g\");
"

/-- The definitions, with the one that has a form of its own. -/
def definitions : List Definition :=
  let read := do
    let s := source.toList
    Grammar.definitions (Grammar.fuel s) (← Token.ofText? s)
  read.getD [] ++ [.mk "recurse" ["f"] (.recurse (.call "f" []))]

/-- The definition of a name and number of arguments. -/
def find? (name : String) (arity : Nat) : Option Definition :=
  definitions.find? fun d => d.name = name ∧ d.parameters.length = arity

end Library
end ResponseTypes
