import CodeMarkup.Lexer.Registry

/-!
The registered lexers.
-/

namespace CodeMarkup.Registry

/-- A registry in which the names and the globs of each lexer are given with blanks between them. -/
def ofRows (rows : List (String × String)) : Registry :=
  rows.map fun (aliases, globs) =>
    ⟨(Text.pieces ' ' aliases).filter (· ≠ ""), (Text.pieces ' ' globs).filter (· ≠ "")⟩

def firstRows : List (String × String) := [
  ("abap", "*.abap *.ABAP"),
  ("amdgpu", "*.isa"),
  ("apl", "*.apl *.aplf *.aplo *.apln *.aplc *.apli *.dyalog"),
  ("abnf", "*.abnf"),
  ("actionscript3 as3", "*.as"),
  ("actionscript as", "*.as"),
  ("ada ada95 ada2005", "*.adb *.ads *.ada"),
  ("adl", "*.adl *.adls *.adlf *.adlx"),
  ("agda", "*.agda"),
  ("aheui", "*.aheui"),
  ("alloy", "*.als"),
  ("ambienttalk ambienttalk/2 at", "*.at"),
  ("ampl", "*.run"),
  ("html+ng2", "*.ng2"),
  ("ng2", ""),
  ("antlr-actionscript antlr-as", "*.G *.g"),
  ("antlr-csharp antlr-c#", "*.G *.g"),
  ("antlr-cpp", "*.G *.g"),
  ("antlr-java", "*.G *.g"),
  ("antlr", ""),
  ("antlr-objc", "*.G *.g"),
  ("antlr-perl", "*.G *.g"),
  ("antlr-python", "*.G *.g"),
  ("antlr-ruby antlr-rb", "*.G *.g"),
  ("apacheconf aconf apache", ".htaccess apache.conf apache2.conf"),
  ("applescript", "*.applescript"),
  ("arduino", "*.ino"),
  ("arrow", "*.arw"),
  ("arturo art", "*.art"),
  ("asc pem", "*.asc *.pem id_dsa id_ecdsa id_ecdsa_sk id_ed25519 id_ed25519_sk id_rsa"),
  ("asn1", "*.asn1"),
  ("aspectj", "*.aj"),
  ("asymptote asy", "*.asy"),
  ("augeas", "*.aug"),
  ("autoit", "*.au3"),
  ("autohotkey ahk", "*.ahk *.ahkl"),
  ("awk gawk mawk nawk", "*.awk"),
  ("bbcbasic", "*.bbc"),
  ("bbcode", ""),
  ("bc", "*.bc"),
  ("bqn", "*.bqn"),
  ("bst bst-pybtex", "*.bst"),
  ("bare", "*.bare"),
  ("basemake", ""),
  ("bash sh ksh zsh shell openrc",
    "*.sh *.ksh *.bash *.ebuild *.eclass *.exheres-0 *.exlib *.zsh .bashrc bashrc " ++
    ".bash_* bash_* zshrc .zshrc .kshrc kshrc PKGBUILD"),
  ("console shell-session", "*.sh-session *.shell-session"),
  ("batch bat dosbatch winbatch", "*.bat *.cmd"),
  ("bdd", "*.feature"),
  ("befunge", "*.befunge"),
  ("berry be", "*.be"),
  ("bibtex bib", "*.bib"),
  ("bitbake", "*.bbclass *.bbappend"),
  ("blitzbasic b3d bplus", "*.bb *.decls"),
  ("blitzmax bmax", "*.bmx"),
  ("blueprint", "*.blp"),
  ("bnf", "*.bnf"),
  ("boa", "*.boa"),
  ("boo", "*.boo"),
  ("boogie", "*.bpl"),
  ("brainfuck bf", "*.bf *.b"),
  ("bugs winbugs openbugs", "*.bug"),
  ("camkes idl4", "*.camkes *.idl4"),
  ("cel", "*.cel"),
  ("c", "*.c *.h *.idc *.x[bp]m"),
  ("cmake", "*.cmake CMakeLists.txt"),
  ("c-objdump", "*.c-objdump"),
  ("cpsa", "*.cpsa"),
  ("css+ul4", "*.cssul4"),
  ("aspx-cs", "*.aspx *.asax *.ascx *.ashx *.asmx *.axd"),
  ("csharp c# cs", "*.cs"),
  ("ca65", "*.s"),
  ("caddyfile caddy", "Caddyfile"),
  ("cadl", "*.cadl"),
  ("capdl", "*.cdl"),
  ("capnp", "*.capnp"),
  ("carbon", "*.carbon"),
  ("cbmbas", "*.bas"),
  ("cddl", "*.cddl"),
  ("ceylon", "*.ceylon"),
  ("cfengine3 cf3", "*.cf"),
  ("chaiscript chai", "*.chai"),
  ("chapel chpl", "*.chpl"),
  ("charmci", "*.ci"),
  ("html+cheetah html+spitfire htmlcheetah", ""),
  ("javascript+cheetah js+cheetah javascript+spitfire js+spitfire", ""),
  ("cheetah spitfire", "*.tmpl *.spt"),
  ("xml+cheetah xml+spitfire", ""),
  ("cirru", "*.cirru"),
  ("clay", "*.clay"),
  ("clean", "*.icl *.dcl"),
  ("clojure clj", "*.clj *.cljc"),
  ("clojurescript cljs", "*.cljs"),
  ("cobolfree", "*.cbl *.CBL"),
  ("cobol", "*.cob *.COB *.cpy *.CPY"),
  ("codeql ql", "*.ql *.qll"),
  ("coffeescript coffee-script coffee", "*.coffee"),
  ("cfc", "*.cfc"),
  ("cfm", "*.cfm *.cfml"),
  ("cfs", ""),
  ("comal comal80", "*.cml *.comal")]

def secondRows : List (String × String) := [
  ("common-lisp cl lisp", "*.cl *.lisp"),
  ("componentpascal cp", "*.cp *.cps"),
  ("cplint", "*.ecl *.prolog *.pro *.pl *.P *.lpad *.cpl"),
  ("cpp c++",
    "*.cpp *.hpp *.c++ *.h++ *.cc *.hh *.cxx *.hxx *.C *.H *.cp *.CPP *.tpp *.cppm *.ixx " ++
    "*.mxx *.ipp"),
  ("cpp-objdump c++-objdumb cxx-objdump", "*.cpp-objdump *.c++-objdump *.cxx-objdump"),
  ("crmsh pcmk", "*.crmsh *.pcmk"),
  ("croc", "*.croc"),
  ("cryptol cry", "*.cry"),
  ("cr crystal", "*.cr"),
  ("csound-document csound-csd", "*.csd"),
  ("csound csound-orc", "*.orc *.udo"),
  ("csound-score csound-sco", "*.sco"),
  ("css+django css+jinja", "*.css.j2 *.css.jinja2"),
  ("css+ruby css+erb", ""),
  ("css+genshitext css+genshi", ""),
  ("css", "*.css"),
  ("css+php", ""),
  ("css+smarty", ""),
  ("cuda cu", "*.cu *.cuh"),
  ("cypher", "*.cyp *.cypher"),
  ("cython pyx pyrex", "*.pyx *.pxd *.pxi"),
  ("d", "*.d *.di"),
  ("d-objdump", "*.d-objdump"),
  ("dpatch", "*.dpatch *.darcspatch"),
  ("dart", "*.dart"),
  ("dasm16", "*.dasm16 *.dasm"),
  ("dax", "*.dax"),
  ("debcontrol control", "control"),
  ("debian.sources", "*.sources"),
  ("delphi pas pascal objectpascal", "*.pas *.dpr"),
  ("desktop", "*.desktop"),
  ("devicetree dts", "*.dts *.dtsi"),
  ("dg", "*.dg"),
  ("diff udiff", "*.diff *.patch"),
  ("django jinja", ""),
  ("zone", "*.zone"),
  ("docker dockerfile", "Dockerfile *.docker"),
  ("dtd", "*.dtd"),
  ("duel jbst jsonml+bst", "*.duel *.jbst"),
  ("dylan-console dylan-repl", "*.dylan-console"),
  ("dylan", "*.dylan *.dyl *.intr"),
  ("dylan-lid lid", "*.lid *.hdp"),
  ("ecl", "*.ecl"),
  ("ec", "*.ec *.eh"),
  ("earl-grey earlgrey eg", "*.eg"),
  ("easytrieve", "*.ezt *.mac"),
  ("ebnf", "*.ebnf"),
  ("eiffel", "*.e"),
  ("iex", ""),
  ("elixir ex exs", "*.ex *.eex *.exs *.leex"),
  ("elm", "*.elm"),
  ("elpi", "*.elpi"),
  ("emacs-lisp elisp emacs", "*.el"),
  ("email eml", "*.eml"),
  ("erb", ""),
  ("erlang", "*.erl *.hrl *.es *.escript"),
  ("erl", "*.erl-sh"),
  ("html+evoque", ""),
  ("evoque", "*.evoque"),
  ("xml+evoque", ""),
  ("execline", "*.exec"),
  ("ezhil", "*.n"),
  ("fsharp f#", "*.fs *.fsi *.fsx"),
  ("fstar", "*.fst *.fsti"),
  ("factor", "*.factor"),
  ("fancy fy", "*.fy *.fancypack"),
  ("fan", "*.fan"),
  ("felix flx", "*.flx *.flxh"),
  ("fennel fnl", "*.fnl *.fnlm"),
  ("fift fif", "*.fif"),
  ("fish fishshell", "*.fish *.load"),
  ("flatline", ""),
  ("floscript flo", "*.flo"),
  ("forth", "*.frt *.fs"),
  ("fortranfixed", "*.f *.F"),
  ("fortran f90", "*.f03 *.f90 *.F03 *.F90"),
  ("foxpro vfp clipper xbase", "*.PRG *.prg"),
  ("freefem", "*.edp"),
  ("func fc", "*.fc *.func"),
  ("futhark", "*.fut"),
  ("gap-console gap-repl", "*.tst"),
  ("gap", "*.g *.gd *.gi *.gap"),
  ("gdscript gd", "*.gd"),
  ("glsl", "*.vert *.frag *.geo"),
  ("gsql", "*.gsql"),
  ("gas asm", "*.s *.S"),
  ("gcode", "*.gcode"),
  ("genshi kid xml+genshi xml+kid", "*.kid"),
  ("genshitext", ""),
  ("pot po", "*.pot *.po"),
  ("gherkin cucumber", "*.feature"),
  ("gleam", "*.gleam"),
  ("gnuplot", "*.plot *.plt"),
  ("go golang", "*.go"),
  ("golo", "*.golo"),
  ("gooddata-cl", "*.gdc"),
  ("googlesql zetasql", "*.googlesql *.googlesql.sql"),
  ("gosu", "*.gs *.gsx *.gsp *.vark"),
  ("gst", "*.gst"),
  ("graphql", "*.graphql")]

def thirdRows : List (String × String) := [
  ("graphviz dot", "*.gv *.dot"),
  ("groff nroff man", "*.[1-9] *.man *.1p *.3pm"),
  ("groovy", "*.groovy *.gradle"),
  ("hlsl", "*.hlsl *.hlsli"),
  ("html+ul4", "*.htmlul4"),
  ("haml", "*.haml"),
  ("html+handlebars", "*.handlebars *.hbs"),
  ("handlebars", ""),
  ("hare", "*.ha"),
  ("haskell hs", "*.hs"),
  ("haxe hxsl hx", "*.hx *.hxsl"),
  ("hexdump", ""),
  ("hsail hsa", "*.hsail"),
  ("hspec", "*Spec.hs"),
  ("html+django html+jinja htmldjango",
    "*.html.j2 *.htm.j2 *.xhtml.j2 *.html.jinja2 *.htm.jinja2 *.xhtml.jinja2"),
  ("html+genshi html+kid", ""),
  ("html", "*.html *.htm *.xhtml *.xslt"),
  ("html+php", "*.phtml"),
  ("html+smarty", ""),
  ("http", ""),
  ("haxeml hxml", "*.hxml"),
  ("hylang hy", "*.hy"),
  ("hybris", "*.hyb"),
  ("idl", "*.pro"),
  ("icon", "*.icon *.ICON"),
  ("idris idr", "*.idr"),
  ("igor igorpro", "*.ipf"),
  ("inform6 i6", "*.inf"),
  ("i6t", "*.i6t"),
  ("inform7 i7", "*.ni *.i7x"),
  ("ini cfg dosini", "*.ini *.cfg *.inf .editorconfig"),
  ("io", "*.io"),
  ("ioke ik", "*.ik"),
  ("irc", "*.weechatlog"),
  ("isabelle", "*.thy"),
  ("j", "*.ijs"),
  ("jmespath jp", "*.jp"),
  ("jslt", "*.jslt"),
  ("jags", "*.jag *.bug"),
  ("janet", "*.janet *.jdn"),
  ("jasmin jasminxt", "*.j"),
  ("java", "*.java"),
  ("javascript+django js+django javascript+jinja js+jinja", "*.js.j2 *.js.jinja2"),
  ("javascript+ruby js+ruby javascript+erb js+erb", ""),
  ("js+genshitext js+genshi javascript+genshitext javascript+genshi", ""),
  ("javascript js", "*.js *.jsm *.mjs *.cjs"),
  ("javascript+php js+php", ""),
  ("javascript+smarty js+smarty", ""),
  ("js+ul4", "*.jsul4"),
  ("jcl", "*.jcl"),
  ("jsgf", "*.jsgf"),
  ("json5", "*.json5"),
  ("jsonld json-ld", "*.jsonld"),
  ("json json-object", "*.json *.jsonl *.ndjson Pipfile.lock *.module *.xc"),
  ("jsonnet", "*.jsonnet *.libsonnet"),
  ("jsp", "*.jsp"),
  ("jsx react", "*.jsx *.react"),
  ("jlcon julia-repl", ""),
  ("julia jl", "*.jl"),
  ("juttle", "*.juttle"),
  ("k", "*.k"),
  ("kal", "*.kal"),
  ("kconfig menuconfig linux-config kernel-config",
    "Kconfig* *Config.in* external.in* standard-modules.in"),
  ("kmsg dmesg", "*.kmsg *.dmesg"),
  ("koka", "*.kk *.kki"),
  ("kotlin", "*.kt *.kts"),
  ("kuin", "*.kn"),
  ("kql kusto", "*.kql *.kusto .csl"),
  ("lsl", "*.lsl"),
  ("css+lasso", ""),
  ("html+lasso", ""),
  ("javascript+lasso js+lasso", ""),
  ("lasso lassoscript", "*.lasso *.lasso[89]"),
  ("xml+lasso", ""),
  ("ldapconf ldaprc", ".ldaprc ldaprc ldap.conf"),
  ("ldif", "*.ldif"),
  ("lean lean3", "*.lean"),
  ("lean4", "*.lean"),
  ("less", "*.less"),
  ("lighttpd lighty", "lighttpd.conf"),
  ("lilypond", "*.ly"),
  ("limbo", "*.b"),
  ("liquid", "*.liquid"),
  ("literate-agda lagda", "*.lagda"),
  ("literate-cryptol lcryptol lcry", "*.lcry"),
  ("literate-haskell lhaskell lhs", "*.lhs"),
  ("literate-idris lidris lidr", "*.lidr"),
  ("livescript live-script", "*.ls"),
  ("llvm", "*.ll"),
  ("llvm-mir-body", ""),
  ("llvm-mir", "*.mir"),
  ("logos", "*.x *.xi *.xm *.xmi"),
  ("logtalk", "*.lgt *.logtalk"),
  ("lua", "*.lua *.wlua"),
  ("luau", "*.luau"),
  ("mcfunction mcf", "*.mcfunction"),
  ("mcschema", "*.mcschema"),
  ("mime", ""),
  ("mips", "*.mips *.MIPS"),
  ("moocode moo", "*.moo")]

def fourthRows : List (String × String) := [
  ("doscon", ""),
  ("macaulay2", "*.m2"),
  ("make makefile mf bsdmake", "*.mak *.mk Makefile makefile Makefile.* GNUmakefile"),
  ("css+mako", ""),
  ("html+mako", ""),
  ("javascript+mako js+mako", ""),
  ("mako", "*.mao"),
  ("xml+mako", ""),
  ("maple", "*.mpl *.mi *.mm"),
  ("maql", "*.maql"),
  ("markdown md", "*.md *.markdown"),
  ("mask", "*.mask"),
  ("mason", "*.m *.mhtml *.mc *.mi autohandler dhandler"),
  ("mathematica mma nb wl wolfram", "*.nb *.cdf *.nbp *.ma *.wl *.wls"),
  ("matlab", "*.m"),
  ("matlabsession", ""),
  ("maxima macsyma", "*.mac *.max"),
  ("meson meson.build", "meson.build meson.options meson_options.txt"),
  ("minid", ""),
  ("miniscript ms", "*.ms"),
  ("modelica", "*.mo"),
  ("modula2 m2", "*.def *.mod"),
  ("trac-wiki moin", ""),
  ("mojo 🔥", "*.mojo *.🔥"),
  ("monkey", "*.monkey"),
  ("monte", "*.mt"),
  ("moonscript moon", "*.moon"),
  ("mosel", "*.mos"),
  ("css+mozpreproc", "*.css.in"),
  ("mozhashpreproc", ""),
  ("javascript+mozpreproc", "*.js.in"),
  ("mozpercentpreproc", ""),
  ("xul+mozpreproc", "*.xul.in"),
  ("mql mq4 mq5 mql4 mql5", "*.mq4 *.mq5 *.mqh"),
  ("mscgen msc", "*.msc"),
  ("mupad", "*.mu"),
  ("mxml", "*.mxml"),
  ("mysql", ""),
  ("css+myghty", ""),
  ("html+myghty", ""),
  ("javascript+myghty js+myghty", ""),
  ("myghty", "*.myt autodelegate"),
  ("xml+myghty", ""),
  ("ncl", "*.ncl"),
  ("nsis nsi nsh", "*.nsi *.nsh"),
  ("nasm", "*.asm *.ASM *.nasm"),
  ("objdump-nasm", "*.objdump-intel"),
  ("nemerle", "*.n"),
  ("nesc", "*.nc"),
  ("nestedtext nt", "*.nt"),
  ("newlisp", "*.lsp *.nl *.kif"),
  ("newspeak", "*.ns2"),
  ("nginx", "nginx.conf"),
  ("nimrod nim", "*.nim *.nimrod"),
  ("nit", "*.nit"),
  ("nixos nix", "*.nix"),
  ("nodejsrepl", ""),
  ("notmuch", ""),
  ("nusmv", "*.smv"),
  ("numpy", ""),
  ("numba_ir numbair", "*.numba_ir"),
  ("objdump", "*.objdump"),
  ("objective-c objectivec obj-c objc", "*.m *.h"),
  ("objective-c++ objectivec++ obj-c++ objc++", "*.mm *.hh"),
  ("objective-j objectivej obj-j objj", "*.j"),
  ("ocaml", "*.ml *.mli *.mll *.mly"),
  ("octave", "*.m"),
  ("odin", "*.odin"),
  ("omg-idl", "*.idl *.pidl"),
  ("ooc", "*.ooc"),
  ("opa", "*.opa"),
  ("openedge abl progress", "*.p *.cls"),
  ("openscad", "*.scad"),
  ("org orgmode org-mode", "*.org"),
  ("output", ""),
  ("pacmanconf", "pacman.conf"),
  ("pan", "*.pan"),
  ("parasail", "*.psi *.psl"),
  ("pawn", "*.p *.pwn *.inc"),
  ("pddl", "*.pddl"),
  ("peg", "*.peg"),
  ("perl6 pl6 raku",
    "*.pl *.pm *.nqp *.p6 *.6pl *.p6l *.pl6 *.6pm *.p6m *.pm6 *.t *.raku *.rakumod " ++
    "*.rakutest *.rakudoc"),
  ("perl pl", "*.pl *.pm *.t *.perl"),
  ("phix", "*.exw"),
  ("php php3 php4 php5", "*.php *.php[345] *.inc"),
  ("pig", "*.pig"),
  ("pike", "*.pike *.pmod"),
  ("pkgconfig", "*.pc"),
  ("plpgsql", ""),
  ("pointless", "*.ptls"),
  ("pony", "*.pony"),
  ("portugol", "*.alg *.portugol"),
  ("postscript postscr", "*.ps *.eps"),
  ("psql postgresql-console postgres-console", ""),
  ("postgres-explain", "*.explain"),
  ("postgresql postgres", ""),
  ("pov", "*.pov *.inc"),
  ("powershell pwsh posh ps1 psm1", "*.ps1 *.psm1"),
  ("pwsh-session ps1con", ""),
  ("praat", "*.praat *.proc *.psc")]

def fifthRows : List (String × String) := [
  ("procfile", "Procfile"),
  ("prolog", "*.ecl *.prolog *.pro *.pl"),
  ("promql", "*.promql"),
  ("promela", "*.pml *.prom *.prm *.promela *.pr *.pm"),
  ("properties jproperties", "*.properties"),
  ("protobuf proto", "*.proto"),
  ("prql", "*.prql"),
  ("psysh", ""),
  ("ptx", "*.ptx"),
  ("pug jade", "*.pug *.jade"),
  ("puppet", "*.pp"),
  ("purescript purs", "*.purs"),
  ("pypylog pypy", "*.pypylog"),
  ("python2 py2", ""),
  ("py2tb", "*.py2tb"),
  ("pycon python-console", ""),
  ("python py sage python3 py3 bazel starlark pyi",
    "*.py *.pyw *.pyi *.jy *.sage *.sc SConstruct SConscript *.bzl BUCK BUILD " ++
    "BUILD.bazel WORKSPACE *.tac *.pye"),
  ("pytb py3tb", "*.pytb *.py3tb"),
  ("py+ul4", "*.pyul4"),
  ("qbasic basic", "*.BAS *.bas"),
  ("q", "*.q"),
  ("qvto qvt", "*.qvto"),
  ("qlik qlikview qliksense qlikscript", "*.qvs *.qvw"),
  ("qml qbs", "*.qml *.qbs"),
  ("rconsole rout", "*.Rout"),
  ("rng-compact rnc", "*.rnc"),
  ("spec", "*.spec"),
  ("racket rkt", "*.rkt *.rktd *.rktl"),
  ("ragel-c", "*.rl"),
  ("ragel-cpp", "*.rl"),
  ("ragel-d", "*.rl"),
  ("ragel-em", "*.rl"),
  ("ragel-java", "*.rl"),
  ("ragel", ""),
  ("ragel-objc", "*.rl"),
  ("ragel-ruby ragel-rb", "*.rl"),
  ("rd", "*.Rd"),
  ("reasonml reason", "*.re *.rei"),
  ("rebol", "*.r *.r3 *.reb"),
  ("red red/system", "*.red *.reds"),
  ("redcode", "*.cw"),
  ("registry", "*.reg"),
  ("rego", "*.rego"),
  ("rell", "*.rell"),
  ("resourcebundle resource", ""),
  ("rexx arexx", "*.rexx *.rex *.rx *.arexx"),
  ("rhtml html+erb html+ruby", "*.rhtml"),
  ("ride", "*.ride"),
  ("rita", "*.rita"),
  ("roboconf-graph", "*.graph"),
  ("roboconf-instances", "*.instances"),
  ("robotframework", "*.robot *.resource"),
  ("coq rocq rocq-prover", "*.v"),
  ("rql", "*.rql"),
  ("rsl", "*.rsl"),
  ("restructuredtext rst rest", "*.rst *.rest"),
  ("trafficscript rts", "*.rts"),
  ("rbcon irb", ""),
  ("ruby rb duby", "*.rb *.rbw Rakefile *.rake *.gemspec *.rbx *.duby Gemfile Vagrantfile"),
  ("rust rs", "*.rs *.rs.in"),
  ("sas", "*.SAS *.sas"),
  ("splus s r", "*.S *.R .Rhistory .Rprofile .Renviron"),
  ("sml", "*.sml *.sig *.fun"),
  ("snbt", "*.snbt"),
  ("sarl", "*.sarl"),
  ("sass", "*.sass"),
  ("savi", "*.savi"),
  ("scala", "*.scala"),
  ("scaml", "*.scaml"),
  ("scdoc scd", "*.scd *.scdoc"),
  ("scheme scm", "*.scm *.ss"),
  ("scilab", "*.sci *.sce *.tst"),
  ("scss", "*.scss"),
  ("sed gsed ssed", "*.sed *.[gs]sed"),
  ("shexc shex", "*.shex"),
  ("shen", "*.shen"),
  ("sieve", "*.siv *.sieve"),
  ("silver", "*.sil *.vpr"),
  ("singularity", "*.def Singularity"),
  ("slash", "*.sla"),
  ("slim", "*.slim"),
  ("slurm sbatch", "*.sl"),
  ("smali", "*.smali"),
  ("smalltalk squeak st", "*.st"),
  ("sgf", "*.sgf"),
  ("smarty", "*.tpl"),
  ("smithy", "*.smithy"),
  ("snobol", "*.snobol"),
  ("snowball", "*.sbl"),
  ("solidity", "*.sol"),
  ("androidbp bp soong", "Android.bp"),
  ("sophia", "*.aes"),
  ("sp", "*.sp"),
  ("debsources sourceslist sources.list", "sources.list"),
  ("sparql", "*.rq *.sparql"),
  ("spice spicelang", "*.spice"),
  ("sql+jinja", "*.sql *.sql.j2 *.sql.jinja2"),
  ("sql", "*.sql"),
  ("sqlite3", "*.sqlite3-console"),
  ("squidconf squid.conf squid", "squid.conf")]

def sixthRows : List (String × String) := [
  ("srcinfo", ".SRCINFO"),
  ("ssp", "*.ssp"),
  ("stan", "*.stan"),
  ("stata do", "*.do *.ado"),
  ("supercollider sc", "*.sc *.scd"),
  ("swift", "*.swift"),
  ("swig", "*.swg *.i"),
  ("systemverilog sv", "*.sv *.svh"),
  ("systemd",
    "*.service *.socket *.device *.mount *.automount *.swap *.target *.path *.timer " ++
    "*.slice *.scope"),
  ("tap", "*.tap"),
  ("tnt", "*.tnt"),
  ("toml", "*.toml Pipfile poetry.lock"),
  ("tablegen td", "*.td"),
  ("tact", "*.tact"),
  ("tads3", "*.t"),
  ("tal uxntal", "*.tal"),
  ("tasm", "*.asm *.ASM *.tasm"),
  ("tcl", "*.tcl *.rvt"),
  ("tcsh csh", "*.tcsh *.csh"),
  ("tcshcon", ""),
  ("tea", "*.tea"),
  ("teal", "*.teal"),
  ("teratermmacro teraterm ttl", "*.ttl"),
  ("termcap", "termcap termcap.src"),
  ("terminfo", "terminfo terminfo.src"),
  ("terraform tf hcl", "*.tf *.hcl"),
  ("tex latex", "*.tex *.aux *.toc"),
  ("text", "*.txt"),
  ("ti thingsdb", "*.ti"),
  ("thrift", "*.thrift"),
  ("tid", "*.tid"),
  ("tlb", "*.tlb"),
  ("tls", ""),
  ("todotxt", "todo.txt *.todotxt"),
  ("tsql t-sql", "*.sql"),
  ("treetop", "*.treetop *.tt"),
  ("tsx", "*.tsx"),
  ("turtle", "*.ttl"),
  ("html+twig", "*.twig"),
  ("twig", ""),
  ("typescript ts", "*.ts"),
  ("typoscriptcssdata", ""),
  ("typoscripthtmldata", ""),
  ("typoscript", "*.typoscript"),
  ("typst", "*.typ"),
  ("ul4", "*.ul4"),
  ("ucode", "*.u *.u1 *.u2"),
  ("unicon", "*.icn"),
  ("unixconfig linuxconfig", ""),
  ("urbiscript", "*.u"),
  ("urlencoded", ""),
  ("usd usda", "*.usd *.usda"),
  ("vbscript", "*.vbs *.VBS"),
  ("vcl", "*.vcl"),
  ("vclsnippets vclsnippet", ""),
  ("vctreestatus", ""),
  ("vgl", "*.rpf"),
  ("vala vapi", "*.vala *.vapi"),
  ("aspx-vb", "*.aspx *.asax *.ascx *.ashx *.asmx *.axd"),
  ("vb.net vbnet lobas oobas sobas visual-basic visualbasic", "*.vb *.bas"),
  ("html+velocity", ""),
  ("velocity", "*.vm *.fhtml"),
  ("xml+velocity", ""),
  ("verifpal", "*.vp"),
  ("verilog v", "*.v"),
  ("vhdl", "*.vhdl *.vhd"),
  ("vim", "*.vim .vimrc .exrc .gvimrc _vimrc _exrc _gvimrc vimrc gvimrc"),
  ("visualprologgrammar", "*.vipgrm"),
  ("visualprolog", "*.pro *.cl *.i *.pack *.ph"),
  ("vue", "*.vue"),
  ("vyper", "*.vy"),
  ("wdiff", "*.wdiff"),
  ("wast wat", "*.wat *.wast"),
  ("webidl", "*.webidl"),
  ("wgsl", "*.wgsl"),
  ("whiley", "*.whiley"),
  ("wikitext mediawiki", ""),
  ("wowtoc", "*.toc"),
  ("wren", "*.wren"),
  ("x10 xten", "*.x10"),
  ("xml+ul4", "*.xmlul4"),
  ("xquery xqy xq xql xqm", "*.xqy *.xquery *.xq *.xql *.xqm"),
  ("xml+django xml+jinja", "*.xml.j2 *.xml.jinja2"),
  ("xml+ruby xml+erb", ""),
  ("xml", "*.xml *.xsl *.rss *.xslt *.xsd *.wsdl *.wsf *.xbrl *.pom *.svg"),
  ("xml+php", ""),
  ("xml+smarty", ""),
  ("xorg.conf", "xorg.conf"),
  ("xpp x++", "*.xpp"),
  ("xslt", "*.xsl *.xslt *.xpl"),
  ("xtend", "*.xtend"),
  ("extempore", "*.xtm"),
  ("yaml+jinja salt sls", "*.sls *.yaml.j2 *.yml.j2 *.yaml.jinja2 *.yml.jinja2"),
  ("yaml yml", "*.yaml *.yml"),
  ("yang", "*.yang"),
  ("yara yar", "*.yar"),
  ("zeek bro", "*.zeek *.bro"),
  ("zephir", "*.zep"),
  ("zig", "*.zig"),
  ("ansys apdl", "*.ans")]

/-- The lexers that are registered unless others are given. -/
def standard : Registry :=
  ofRows (firstRows ++ secondRows ++ thirdRows ++ fourthRows ++ fifthRows ++ sixthRows)

end CodeMarkup.Registry
